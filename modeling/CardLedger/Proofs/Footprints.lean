import Mathlib
import CardLedger.Proofs.Scripts
import CardLedger.Proofs.Transfer

/-!
# What a running call relies on, and what it may change

While a call runs, other calls run in between its awaited steps. What it read earlier must still
hold when it returns, or its result could not be the one of a run alone. The engine's calls rely
on two kinds of reads only (`Request.Protected`): a card whose row lock they hold, found; and
the blob of the first number an issue draws, not stored. They write only rows whose locks they
hold, and insert only a row under that blob (`Request.Allowed`). An allowed write of one call
leaves every protected read of another with the same answer (`perform_of_protected`), as long
as the two hold disjoint locks and drew different nonces.

`Script.Trace` is the part of a call's script it has run: the locks it took and the protected
reads it made, all answered on one store. `Script.Safe` says that whatever a script reaches
alone, its next step keeps to those rules; each of the engine's calls is safe.
-/

namespace CardLedger

def Store.FreshFor (s : Store) (nonce : Option (List UInt8)) : Prop :=
  ∀ n, nonce = some n → ∀ (id : CardId) (r : Record), s.cards[id]? = some r →
    r.number.nonce ≠ some n

/-! ## What a lookup gives -/

theorem Record.openWith_error {sealer : Sealer} {r : Record} {e : CardError}
    (failed : r.openWith sealer = .error e) : ∃ m, e = .cryptoFailure m := by
  unfold Record.openWith at failed
  cases text : sealer.openBlob r.number with
  | error e' =>
    simp only [text, bind, Except.bind, Except.error.injEq] at failed
    subst failed
    unfold Sealer.openBlob Sealer.openBytes Sealer.malformed at text
    split at text
    · cases text
      exact ⟨_, rfl⟩
    · split at text
      · cases text
        exact ⟨_, rfl⟩
      · split at text
        · cases text
          exact ⟨_, rfl⟩
        · split at text
          · cases text
          · cases text
            exact ⟨_, rfl⟩
  | ok t =>
    simp only [text, bind, Except.bind] at failed
    split at failed
    · cases failed
      exact ⟨_, rfl⟩
    · cases failed

namespace Store

variable {s : Store} {id : CardId} {card : Card}

theorem findById_some (found : s.findById id = .ok (some card)) :
    ∃ r, s.cards[id]? = some r ∧ card.Mirrors r := by
  unfold findById lookup at found
  cases row : s.cards[id]? with
  | none => simp [row] at found
  | some r =>
    rw [row] at found
    cases opened : r.openWith s.sealer with
    | error e => simp [opened, Except.map] at found
    | ok c =>
      simp only [opened, Except.map, Except.ok.injEq, Option.some_inj] at found
      subst found
      exact ⟨r, rfl, Record.openWith_mirrors opened⟩

theorem findByIdAndOwner_some {owner : OwnerId}
    (found : s.findByIdAndOwner id owner = .ok (some card)) :
    ∃ r, s.cards[id]? = some r ∧ card.Mirrors r := by
  rw [findByIdAndOwner_eq] at found
  cases owned : s.ownedRow id owner with
  | none => simp [owned] at found
  | some r =>
    rw [owned] at found
    cases opened : r.openWith s.sealer with
    | error e => simp [opened, Except.map] at found
    | ok c =>
      simp only [opened, Except.map, Except.ok.injEq, Option.some_inj] at found
      subst found
      exact ⟨r, (row_of_ownedRow owned).1, Record.openWith_mirrors opened⟩

theorem id_of_mirrors (keyed : s.KeyedById) {r : Record} (row : s.cards[id]? = some r)
    (mirrors : card.Mirrors r) : card.id = id :=
  mirrors.1.trans (keyed id r row)

theorem findByIdAndOwner_error {owner : OwnerId} {e : CardError}
    (failed : s.findByIdAndOwner id owner = .error e) (id' : CardId) :
    e ≠ .concurrentModification id' := by
  rw [findByIdAndOwner_eq] at failed
  cases owned : s.ownedRow id owner with
  | none => simp [owned] at failed
  | some r =>
    rw [owned] at failed
    cases opened : r.openWith s.sealer with
    | error e' =>
      simp only [opened, Except.map, Except.error.injEq] at failed
      obtain ⟨m, rfl⟩ := Record.openWith_error opened
      rw [← failed]
      simp
    | ok c => simp [opened, Except.map] at failed

end Store

namespace Request

variable {β γ : Type}

/-- A read a running call relies on until it returns: a card whose lock it holds, found; or the
blob sealed under its nonce, not stored. -/
def Protected (held : List CardId) (nonce : Option (List UInt8)) :
    Request β → Outcome β → Prop
  | findById id, o => id ∈ held ∧ ∃ card, o = .ok (some card)
  | findByIdAndOwner id _, o => id ∈ held ∧ ∃ card, o = .ok (some card)
  | hasNumber blob, o => ∃ n, nonce = some n ∧ blob.nonce = some n ∧ o = .ok false
  | _, _ => False

/-- The writes a call may make: the rows whose locks it holds, and a new row under a blob sealed
under its nonce. -/
def Allowed (held : List CardId) (nonce : Option (List UInt8)) : Request β → Prop
  | insert _ blob => ∃ n, nonce = some n ∧ blob.nonce = some n
  | save card => card.id ∈ held
  | saveBoth first second => first.id ∈ held ∧ second.id ∈ held
  | delete id => id ∈ held
  | _ => True

theorem Protected.mono {held held' : List CardId} (sub : held ⊆ held') {r : Request β}
    {nonce : Option (List UInt8)} {o : Outcome β} (relied : r.Protected held nonce o) :
    r.Protected held' nonce o := by
  cases r with
  | findById id => exact ⟨sub relied.1, relied.2⟩
  | findByIdAndOwner id owner => exact ⟨sub relied.1, relied.2⟩
  | hasNumber blob => exact relied
  | _ => exact relied.elim

/-! ## One allowed write against the reads of another call -/

section Frame

variable {s : Store} (consistent : s.Consistent) {w : Request γ} {heldW : List CardId}
  {nonceW : Option (List UInt8)}
include consistent

private theorem effect (w : Request γ) :
    (w.perform s).2 = s ∨ w.toCall.Effect s (.ok (), (w.perform s).2) := by
  have done := StoreCall.effect w.toCall consistent
  rw [perform_snd]
  rcases result : w.toCall.result s with ⟨_ | _, s'⟩
  · rw [result] at done
    exact .inl done
  · rw [result] at done
    exact .inr done

theorem cards_of_allowed (allowed : w.Allowed heldW nonceW) {id : CardId} (outside : id ∉ heldW)
    (stored : id ∈ s.cards) :
    (w.perform s).2.cards[id]? = s.cards[id]? ∧ (w.perform s).2.sealer = s.sealer := by
  rcases effect consistent w with same | changed
  · rw [same]
    exact ⟨rfl, rfl⟩
  cases w with
  | insert card blob =>
    obtain ⟨freshId, -, written⟩ := changed
    have other : card.id ≠ id := fun same => freshId (same ▸ stored)
    rw [written]
    simp [Std.HashMap.getElem?_insert, other]
  | save card =>
    obtain ⟨r, -, written⟩ := changed
    have other : card.id ≠ id := fun same => outside (same ▸ allowed)
    rw [written]
    simp [Std.HashMap.getElem?_insert, other]
  | saveBoth first second =>
    obtain ⟨-, r₁, r₂, -, -, written⟩ := changed
    have other₁ : first.id ≠ id := fun same => outside (same ▸ allowed.1)
    have other₂ : second.id ≠ id := fun same => outside (same ▸ allowed.2)
    rw [written]
    simp [Std.HashMap.getElem?_insert, other₁, other₂]
  | delete id' =>
    have other : id' ≠ id := fun same => outside (same ▸ allowed)
    simp only [toCall, StoreCall.Effect] at changed
    split at changed
    · rw [changed.1]
      simp [Std.HashMap.getElem?_erase, other]
    · rw [changed]
      exact ⟨rfl, rfl⟩
  | findById _ | findByIdAndOwner _ _ | findAll _ | hasNumber _ | sumByOwner _ =>
    simp only [toCall, StoreCall.Effect] at changed
    rw [changed]
    exact ⟨rfl, rfl⟩

theorem hasNumber_of_allowed (allowed : w.Allowed heldW nonceW) {blob : Blob}
    (absent : s.hasNumber blob = false) (other : ∀ n, nonceW = some n → blob.nonce ≠ some n) :
    (w.perform s).2.hasNumber blob = false := by
  rcases effect consistent w with same | changed
  · rw [same]
    exact absent
  cases w with
  | insert card blob' =>
    obtain ⟨-, -, written⟩ := changed
    obtain ⟨n, mine, sealed⟩ := allowed
    have distinct : blob' ≠ blob := fun same => other n mine (same ▸ sealed)
    rw [written]
    simpa [Store.hasNumber, Std.HashMap.contains_insert, distinct] using absent
  | save card =>
    obtain ⟨r, -, written⟩ := changed
    rw [written]
    exact absent
  | saveBoth first second =>
    obtain ⟨-, r₁, r₂, -, -, written⟩ := changed
    rw [written]
    exact absent
  | delete id =>
    simp only [toCall, StoreCall.Effect] at changed
    split at changed
    · rw [changed.1]
      simp only [Store.hasNumber, Std.HashMap.contains_erase] at absent ⊢
      simp [absent]
    · rw [changed]
      exact absent
  | findById _ | findByIdAndOwner _ _ | findAll _ | hasNumber _ | sumByOwner _ =>
    simp only [toCall, StoreCall.Effect] at changed
    rw [changed]
    exact absent

theorem freshFor_of_allowed (allowed : w.Allowed heldW nonceW) {nonce : Option (List UInt8)}
    (fresh : s.FreshFor nonce) (distinct : ∀ n, nonce = some n → nonceW ≠ some n) :
    (w.perform s).2.FreshFor nonce := by
  intro n mine id r row
  rcases effect consistent w with same | changed
  · rw [same] at row
    exact fresh n mine id r row
  cases w with
  | insert card blob =>
    obtain ⟨-, -, written⟩ := changed
    obtain ⟨m, theirs, sealed⟩ := allowed
    rw [written] at row
    by_cases here : card.id = id
    · simp only [Std.HashMap.getElem?_insert, here, beq_self_eq_true, if_true,
        Option.some_inj] at row
      subst row
      rw [sealed]
      intro same
      exact distinct n mine (by rw [theirs, Option.some_inj.mp same])
    · simp only [Std.HashMap.getElem?_insert, beq_iff_eq, here, if_false] at row
      exact fresh n mine id r row
  | save card =>
    obtain ⟨r', row', written⟩ := changed
    rw [written] at row
    by_cases here : card.id = id
    · simp only [Std.HashMap.getElem?_insert, here, beq_self_eq_true, if_true,
        Option.some_inj] at row
      subst row here
      exact fresh n mine _ r' row'
    · simp only [Std.HashMap.getElem?_insert, beq_iff_eq, here, if_false] at row
      exact fresh n mine id r row
  | saveBoth first second =>
    obtain ⟨-, r₁, r₂, row₁, row₂, written⟩ := changed
    rw [written] at row
    by_cases here₂ : second.id = id
    · simp only [Std.HashMap.getElem?_insert, here₂, beq_self_eq_true, if_true,
        Option.some_inj] at row
      subst row here₂
      exact fresh n mine _ r₂ row₂
    by_cases here₁ : first.id = id
    · simp only [Std.HashMap.getElem?_insert, here₁, here₂, beq_self_eq_true, beq_iff_eq,
        if_true, if_false, Option.some_inj] at row
      subst row here₁
      exact fresh n mine _ r₁ row₁
    · simp only [Std.HashMap.getElem?_insert, beq_iff_eq, here₁, here₂, if_false] at row
      exact fresh n mine id r row
  | delete id' =>
    simp only [toCall, StoreCall.Effect] at changed
    split at changed
    · rw [changed.1] at row
      by_cases here : id' = id
      · simp [here] at row
      · simp only [Std.HashMap.getElem?_erase, beq_iff_eq, here, if_false] at row
        exact fresh n mine id r row
    · rw [changed] at row
      exact fresh n mine id r row
  | findById _ | findByIdAndOwner _ _ | findAll _ | hasNumber _ | sumByOwner _ =>
    simp only [toCall, StoreCall.Effect] at changed
    rw [changed] at row
    exact fresh n mine id r row

theorem perform_of_protected (allowed : w.Allowed heldW nonceW) {r : Request β} {o : Outcome β}
    {held : List CardId} {nonce : Option (List UInt8)} (relied : r.Protected held nonce o)
    (answered : r.perform s = (o, s)) (apart : ∀ id ∈ held, id ∉ heldW)
    (distinct : ∀ n, nonce = some n → nonceW ≠ some n) :
    r.perform (w.perform s).2 = (o, (w.perform s).2) := by
  -- a found card is stored, so a write outside its lock leaves its row and the sealer
  have keeps : ∀ id ∈ held, (∃ r, s.cards[id]? = some r) →
      (w.perform s).2.lookup id = s.lookup id ∧ (w.perform s).2.sealer = s.sealer := by
    rintro id mine ⟨row, stored⟩
    exact cards_of_allowed consistent allowed (apart id mine)
      (Std.HashMap.mem_iff_isSome_getElem?.mpr (by simp [stored]))
  cases r with
  | findById id =>
    obtain ⟨mine, card, rfl⟩ := relied
    simp only [perform_findById, Prod.mk.injEq, and_true] at answered
    have stored : ∃ r, s.cards[id]? = some r := by
      unfold Store.findById Store.lookup at answered
      cases row : s.cards[id]? with
      | none => simp [row] at answered
      | some r => exact ⟨r, rfl⟩
    obtain ⟨row, sealer⟩ := keeps id mine stored
    simp only [perform_findById, Store.findById, row, sealer, Prod.mk.injEq, and_true]
    exact answered
  | findByIdAndOwner id owner =>
    obtain ⟨mine, card, rfl⟩ := relied
    simp only [perform_findByIdAndOwner, Prod.mk.injEq, and_true] at answered
    have stored : ∃ r, s.cards[id]? = some r := by
      unfold Store.findByIdAndOwner Store.lookup at answered
      cases row : s.cards[id]? with
      | none => simp [row] at answered
      | some r => exact ⟨r, rfl⟩
    obtain ⟨row, sealer⟩ := keeps id mine stored
    simp only [perform_findByIdAndOwner, Store.findByIdAndOwner, row, sealer, Prod.mk.injEq,
      and_true]
    exact answered
  | hasNumber blob =>
    obtain ⟨n, mine, sealed, rfl⟩ := relied
    simp only [perform_hasNumber, Prod.mk.injEq, Except.ok.injEq, and_true] at answered
    have other : ∀ m, nonceW = some m → blob.nonce ≠ some m := by
      rintro m theirs same
      rw [sealed, Option.some_inj] at same
      exact distinct n mine (same ▸ theirs)
    simp [hasNumber_of_allowed consistent allowed answered other]
  | _ => exact relied.elim

end Frame

end Request

namespace Script

variable {α β γ : Type} {s : Store} {nonce : Option (List UInt8)}

/-- What a call has run of its script alone on the store `s`, from holding `held` at `p` to
holding `held'` at `q`: the lock it took, and reads it relies on, each of which left the store
as it was. -/
inductive Trace (s : Store) (nonce : Option (List UInt8)) :
    List CardId → Script α → List CardId → Script α → Prop
  | refl (held : List CardId) (p : Script α) : Trace s nonce held p held p
  | lock {g : Guard} {next q : Script α} {held' : List CardId} :
      Trace s nonce g.ids next held' q → Trace s nonce [] (.lock g next) held' q
  | call {γ : Type} {r : Request γ} {next : Outcome γ → Script α} {o : Outcome γ}
      {held held' : List CardId} {q : Script α} :
      r.perform s = (o, s) → r.Protected held nonce o → Trace s nonce held (next o) held' q →
      Trace s nonce held (.call r next) held' q

namespace Trace

variable {held held' held'' : List CardId} {p q q' : Script α}

theorem trans (first : Trace s nonce held p held' q) (second : Trace s nonce held' q held'' q') :
    Trace s nonce held p held'' q' := by
  induction first with
  | refl => exact second
  | lock _ ih => exact .lock (ih second)
  | call performed relied _ ih => exact .call performed relied (ih second)

theorem run_eq (trace : Trace s nonce held p held' q) : p.run s = q.run s := by
  induction trace with
  | refl => rfl
  | lock _ ih => exact ih
  | call performed _ _ ih => simp [performed, ih]

theorem held_eq (trace : Trace s nonce held p held' q) (holding : held ≠ []) : held' = held := by
  induction trace with
  | refl => rfl
  | lock => exact absurd rfl holding
  | call _ _ _ ih => exact ih holding

theorem done_inv {r : Outcome α} (trace : Trace s nonce held (.done r) held' q) :
    q = .done r ∧ held' = held := by
  cases trace
  exact ⟨rfl, rfl⟩

theorem lock_inv {g : Guard} {next : Script α}
    (trace : Trace s nonce held (.lock g next) held' q) :
    (q = .lock g next ∧ held' = held) ∨ (held = [] ∧ Trace s nonce g.ids next held' q) := by
  cases trace with
  | refl => exact .inl ⟨rfl, rfl⟩
  | lock rest => exact .inr ⟨rfl, rest⟩

theorem call_inv {r : Request γ} {next : Outcome γ → Script α}
    (trace : Trace s nonce held (.call r next) held' q) :
    (q = .call r next ∧ held' = held) ∨
      ∃ o, r.perform s = (o, s) ∧ r.Protected held nonce o ∧
        Trace s nonce held (next o) held' q := by
  cases trace with
  | refl => exact .inl ⟨rfl, rfl⟩
  | call performed relied rest => exact .inr ⟨_, performed, relied, rest⟩

theorem transfer {s' : Store} (trace : Trace s nonce held p held' q) (sub : held ⊆ held')
    (keeps : ∀ {γ : Type} (r : Request γ) (o : Outcome γ), r.Protected held' nonce o →
      r.perform s = (o, s) → r.perform s' = (o, s')) :
    Trace s' nonce held p held' q := by
  induction trace with
  | refl => exact .refl _ _
  | lock rest ih =>
    -- after the lock the call holds the guard's cards, and they are all it holds
    have same := rest.held_eq (Guard.ids_ne_nil _)
    exact .lock (ih (by rw [same]; exact List.Subset.refl _) keeps)
  | call performed relied _ ih =>
    exact .call (keeps _ _ (relied.mono sub) performed) relied (ih sub keeps)

end Trace

/-- The next step of a call standing at a point, holding `held`, on the store `s`: it takes a
lock only while it holds none; it writes only what it may; and after a store call it goes on
only from a read it relies on, which left the store as it was. -/
def StepSafe (s : Store) (nonce : Option (List UInt8)) (held : List CardId) : Script α → Prop
  | done _ => True
  | lock _ _ => held = []
  | call r next => r.Allowed held nonce ∧
      ((∃ res, next (r.perform s).1 = done res) ∨
        ((r.perform s).2 = s ∧ r.Protected held nonce (r.perform s).1))

/-- A script is safe when every point it reaches alone, on a consistent store that holds no blob
under its nonce, has a safe next step. -/
def Safe (nonce : Option (List UInt8)) (p : Script α) : Prop :=
  ∀ s, s.Consistent → s.FreshFor nonce → ∀ held q, Trace s nonce [] p held q →
    q.StepSafe s nonce held

/-! ## A final map changes no step -/

theorem Trace.of_map (f : α → β) {p : Script α} {held held' : List CardId} {q : Script β}
    (trace : Trace s nonce held (p.bind fun a => done (.ok (f a))) held' q) :
    ∃ q', Trace s nonce held p held' q' ∧ q = q'.bind fun a => done (.ok (f a)) := by
  induction p generalizing held with
  | done r =>
    cases r <;> simp only [bind_ok, bind_error] at trace <;>
    · obtain ⟨rfl, rfl⟩ := trace.done_inv
      exact ⟨_, .refl _ _, rfl⟩
  | call r next ih =>
    rcases (bind_call r next _ ▸ trace).call_inv with
      ⟨rfl, rfl⟩ | ⟨o, performed, relied, rest⟩
    · exact ⟨_, .refl _ _, rfl⟩
    · obtain ⟨q', reached, rfl⟩ := ih o rest
      exact ⟨q', .call performed relied reached, rfl⟩
  | lock g next ih =>
    rcases (bind_lock g next _ ▸ trace).lock_inv with ⟨rfl, rfl⟩ | ⟨rfl, rest⟩
    · exact ⟨_, .refl _ _, rfl⟩
    · obtain ⟨q', reached, rfl⟩ := ih rest
      exact ⟨q', .lock reached, rfl⟩

theorem StepSafe.map (f : α → β) {held : List CardId} {q : Script α}
    (safe : q.StepSafe s nonce held) :
    (q.bind fun a => done (.ok (f a))).StepSafe s nonce held := by
  cases q with
  | done r => cases r <;> trivial
  | lock g next => exact safe
  | call r next =>
    refine ⟨safe.1, ?_⟩
    rcases safe.2 with ⟨res, returned⟩ | relied
    · rcases res with e | a
      · exact .inl ⟨.error e, by simp [returned]⟩
      · exact .inl ⟨.ok (f a), by simp [returned]⟩
    · exact .inr relied

theorem Safe.map (f : α → β) {p : Script α} (safe : p.Safe nonce) : (f <$> p).Safe nonce := by
  intro s consistent fresh held q trace
  obtain ⟨q', reached, rfl⟩ := Trace.of_map f (by simpa using trace)
  exact (safe s consistent fresh held q' reached).map f

theorem safe_of_read {r : Request γ} {next : Outcome γ → Script α}
    (read : ∀ held, r.Allowed held nonce) (returns : ∀ o, ∃ res, next o = done res)
    (unrelied : ∀ o, ¬ r.Protected [] nonce o) : (call r next).Safe nonce := by
  intro s _ _ held q trace
  rcases trace.call_inv with ⟨rfl, rfl⟩ | ⟨o, -, relied, -⟩
  · exact ⟨read [], .inl (returns _)⟩
  · exact absurd relied (unrelied o)

/-! ## Each call of the engine is safe -/

theorem safe_getBalance (who : Identity) (id : CardId) : (getBalance who id).Safe nonce := by
  simp only [getBalance, bind_eq, perform_bind]
  refine safe_of_read (fun _ => trivial) (fun o => ?_)
    (fun o relied => by simp [Request.Protected] at relied)
  rcases o with e | _ | card <;> simp [orNotFound]

theorem safe_getTotalBalance (who : Identity) : (getTotalBalance who).Safe nonce :=
  safe_of_read (fun _ => trivial) (fun o => ⟨o, rfl⟩) (fun _ relied => relied)

theorem safe_listCards (who : Identity) (f : Card.Filter) : (listCards who f).Safe nonce := by
  simp only [listCards, bind_eq, perform_bind]
  refine safe_of_read (fun _ => trivial) (fun o => ?_) (fun _ relied => relied)
  rcases o with e | cards <;> simp

theorem safe_deleteCard (who : Identity) (id : CardId) : (deleteCard who id).Safe nonce := by
  intro s _ _ held q trace
  rcases admin : who.requireAdmin "Deleting a card" with e | _
  · simp only [deleteCard, admin, check_eq, bind_eq, bind_error] at trace
    obtain ⟨rfl, rfl⟩ := trace.done_inv
    trivial
  simp only [deleteCard, admin, check_eq, bind_eq, bind_ok, perform_bind] at trace
  rcases trace.lock_inv with ⟨rfl, rfl⟩ | ⟨-, rest⟩
  · rfl
  rcases rest.call_inv with ⟨rfl, rfl⟩ | ⟨o, -, relied, -⟩
  · refine ⟨List.mem_singleton_self id, .inl ?_⟩
    simp only [Request.perform_delete]
    cases (s.delete id).1 <;> simp
  · exact relied.elim

theorem loadFor_eq (who : Identity) (id : CardId) :
    ∃ r : Request (Option Card),
      loadFor who id = call r (fun o => (done o).bind (orNotFound id)) ∧
      (r = .findById id ∨ r = .findByIdAndOwner id who.id) := by
  by_cases admin : who.isAdmin = true
  · exact ⟨_, by simp [loadFor, admin], .inl rfl⟩
  · exact ⟨_, by simp [loadFor, admin], .inr rfl⟩

theorem lookup_spec (nonce : Option (List UInt8)) {r : Request (Option Card)} {id : CardId}
    {owner : OwnerId} (lookup : r = .findById id ∨ r = .findByIdAndOwner id owner) :
    (∀ held, r.Allowed held nonce) ∧ (∀ s : Store, (r.perform s).2 = s) ∧
      (∀ held o, r.Protected held nonce o ↔ id ∈ held ∧ ∃ card, o = .ok (some card)) ∧
      (∀ (s : Store) (card : Card), (r.perform s).1 = .ok (some card) →
        ∃ row, s.cards[id]? = some row ∧ card.Mirrors row) := by
  rcases lookup with rfl | rfl
  · exact ⟨fun _ => trivial, fun _ => rfl, fun _ _ => Iff.rfl,
      fun _ _ found => Store.findById_some found⟩
  · exact ⟨fun _ => trivial, fun _ => rfl, fun _ _ => Iff.rfl,
      fun _ _ found => Store.findByIdAndOwner_some found⟩

theorem safe_setStatus (who : Identity) (id : CardId) (target : Status) :
    (setStatus who id target).Safe nonce := by
  intro s consistent _ held q trace
  by_cases expired : target = .expired
  · simp only [setStatus, expired, ↓reduceIte, throw_eq, bind_eq, bind_error] at trace
    obtain ⟨rfl, rfl⟩ := trace.done_inv
    trivial
  simp only [setStatus, expired, ↓reduceIte, pure_eq, bind_eq] at trace
  rcases trace.lock_inv with ⟨rfl, rfl⟩ | ⟨-, rest⟩
  · rfl
  obtain ⟨r, loaded, lookup⟩ := loadFor_eq who id
  obtain ⟨read, keeps, relies, opens⟩ := lookup_spec nonce lookup
  rw [loaded, bind_call] at rest
  rcases rest.call_inv with ⟨rfl, rfl⟩ | ⟨o, performed, relied, rest⟩
  · -- the load: an error or a missing card returns, a found card is relied on
    refine ⟨read _, ?_⟩
    rcases found : (r.perform s).1 with e | _ | card
    · exact .inl ⟨.error e, rfl⟩
    · exact .inl ⟨.error (Engine.cardNotFound id), by simp [orNotFound]⟩
    · exact .inr ⟨keeps s, (relies _ _).mpr ⟨List.mem_singleton_self id, card, rfl⟩⟩
  obtain ⟨-, card, rfl⟩ := (relies _ _).mp relied
  obtain ⟨row, stored, mirrors⟩ := opens s card (by rw [performed])
  have same : card.id = id := Store.id_of_mirrors consistent.keyed stored mirrors
  simp only [bind_ok, orNotFound, pure_eq, check_eq] at rest
  rcases transition : card.status.transition target who.role with e | (status | _)
  · simp only [transition, bind_error] at rest
    obtain ⟨rfl, rfl⟩ := rest.done_inv
    trivial
  · -- a changed status is written back under the card's lock, and the call returns
    simp only [transition, bind_ok, perform] at rest
    rcases rest.call_inv with ⟨rfl, rfl⟩ | ⟨o, -, relied, -⟩
    · exact ⟨by simp [Request.Allowed, Guard.ids, same], .inl ⟨_, rfl⟩⟩
    · exact relied.elim
  · simp only [transition, bind_ok] at rest
    obtain ⟨rfl, rfl⟩ := rest.done_inv
    trivial

theorem handle_done (p : Script α) : p.handle (fun e => done (.error e)) = p := by
  induction p with
  | done r => cases r <;> rfl
  | call r next ih => simp [ih]
  | lock g next ih => simp [handle, ih]

theorem mem_pairIds_left (a b : CardId) : a ∈ LockTable.pairIds a b := by
  unfold LockTable.pairIds
  split_ifs <;> simp

theorem mem_pairIds_right (a b : CardId) : b ∈ LockTable.pairIds a b := by
  unfold LockTable.pairIds
  split_ifs with same <;> simp [same]

theorem Trace.ownedLookup {owner : OwnerId} {id : CardId} {locks held : List CardId}
    {h : CardError → Script Unit} {k : Card → Script Unit} {q : Script Unit}
    (passes : ∀ e, (∀ id, e ≠ .concurrentModification id) → h e = done (.error e))
    (mine : id ∈ locks)
    (trace : Trace s nonce locks
      (((perform (.findByIdAndOwner id owner)).bind fun o => (orNotFound id o).bind k).handle h)
      held q) :
    q.StepSafe s nonce held ∨ ∃ card row, s.cards[id]? = some row ∧ card.Mirrors row ∧
      Trace s nonce locks ((k card).handle h) held q := by
  simp only [perform_bind, handle_call] at trace
  rcases trace.call_inv with ⟨rfl, rfl⟩ | ⟨o, performed, relied, rest⟩
  · refine .inl ⟨trivial, ?_⟩
    simp only [Request.perform_findByIdAndOwner]
    rcases found : s.findByIdAndOwner id owner with e | _ | card
    · exact .inl ⟨.error e, by simp [passes e (Store.findByIdAndOwner_error found)]⟩
    · have missing : ∀ other, Engine.cardNotFound id ≠ .concurrentModification other := by
        simp [Engine.cardNotFound]
      exact .inl ⟨.error (Engine.cardNotFound id), by simp [orNotFound, passes _ missing]⟩
    · exact .inr ⟨trivial, mine, card, rfl⟩
  obtain ⟨-, card, rfl⟩ := relied
  simp only [Request.perform_findByIdAndOwner, Prod.mk.injEq, and_true] at performed
  obtain ⟨row, stored, mirrors⟩ := Store.findByIdAndOwner_some performed
  simp only [orNotFound, pure_eq, bind_ok] at rest
  exact .inr ⟨card, row, stored, mirrors, rest⟩

theorem safe_tryTransfer {owner : OwnerId} {source target : CardId} {amount : Amount}
    {h : CardError → Script Unit}
    (passes : ∀ e, (∀ id, e ≠ .concurrentModification id) → h e = done (.error e))
    (distinct : source ≠ target) (consistent : s.Consistent) {held : List CardId}
    {q : Script Unit}
    (trace : Trace s nonce (LockTable.pairIds source target)
      ((tryTransfer owner source target amount).handle h) held q) :
    q.StepSafe s nonce held := by
  simp only [tryTransfer, bind_eq] at trace
  rcases trace.ownedLookup passes (mem_pairIds_left source target) with
    safe | ⟨from_, r₁, row₁, mirrors₁, rest⟩
  · exact safe
  rcases rest.ownedLookup passes (mem_pairIds_right source target) with
    safe | ⟨to_, r₂, row₂, mirrors₂, rest⟩
  · exact safe
  -- the checks on the two cards: each failure returns through the handler
  have returns : ∀ e, (∀ id, e ≠ .concurrentModification id) → Trace s nonce
      (LockTable.pairIds source target) (h e) held q → q.StepSafe s nonce held := by
    intro e notRace reached
    rw [passes e notRace] at reached
    obtain ⟨rfl, rfl⟩ := reached.done_inv
    trivial
  cases active₁ : from_.status.allowsFundsMovement
  · simp only [active₁, Bool.not_false, ↓reduceIte, throw_eq, bind_error, handle_error] at rest
    exact returns _ (by simp) rest
  cases active₂ : to_.status.allowsFundsMovement
  · simp only [active₁, active₂, Bool.not_false, Bool.not_true, ↓reduceIte, throw_eq,
      bind_error, handle_error, Bool.false_eq_true] at rest
    exact returns _ (by simp) rest
  rcases debit : from_.balance.debit amount with _ | debited
  · simp only [active₁, active₂, debit, Bool.not_true, ↓reduceIte, throw_eq,
      bind_error, handle_error, Bool.false_eq_true] at rest
    exact returns _ (by simp) rest
  rcases credit : to_.balance.credit amount with e | credited
  · simp only [active₁, active₂, debit, credit, Bool.not_true, ↓reduceIte,
      check_eq, bind_error, Bool.false_eq_true] at rest
    have overflow : e = .balanceOverflow := by
      unfold Balance.credit Balance.checkedAdd at credit
      split at credit <;> cases credit
      rfl
    exact returns _ (by simp [overflow]) rest
  simp only [active₁, active₂, debit, credit, Bool.not_true, ↓reduceIte, bind_ok,
    check_eq, Bool.false_eq_true] at rest
  -- the pair write: both rows carry the versions that were read, so it succeeds and returns
  rcases rest.call_inv with ⟨rfl, rfl⟩ | ⟨o, -, relied, -⟩
  · have id₁ := Store.id_of_mirrors consistent.keyed row₁ mirrors₁
    have id₂ := Store.id_of_mirrors consistent.keyed row₂ mirrors₂
    refine ⟨⟨?_, ?_⟩, .inl ?_⟩
    · simpa [id₁] using mem_pairIds_left source target
    · simpa [id₂] using mem_pairIds_right source target
    obtain ⟨written, saved⟩ :=
      Store.saveBoth_read_back consistent.keyed distinct row₁ row₂ mirrors₁ mirrors₂ debited
        credited
    exact ⟨.ok (), by simp [saved]⟩
  · exact relied.elim

theorem safe_transferWithRetries {owner : OwnerId} {source target : CardId} {amount : Amount}
    (retries : Nat) (distinct : source ≠ target) (consistent : s.Consistent) {held : List CardId}
    {q : Script Unit}
    (trace : Trace s nonce (LockTable.pairIds source target)
      (transferWithRetries owner source target amount retries) held q) :
    q.StepSafe s nonce held := by
  cases retries with
  | zero =>
    rw [transferWithRetries, ← handle_done (tryTransfer owner source target amount)] at trace
    exact safe_tryTransfer (fun _ _ => rfl) distinct consistent trace
  | succ retries =>
    rw [transferWithRetries, tryCatch_eq] at trace
    refine safe_tryTransfer (fun e notRace => ?_) distinct consistent trace
    cases e
    case concurrentModification id => exact absurd rfl (notRace id)
    all_goals rfl

theorem safe_transfer (config : Config) (who : Identity) (source target : CardId)
    (amount : Decimal) :
    (transfer config who source target amount).Safe nonce := by
  intro s consistent _ held q trace
  by_cases same : source = target
  · simp only [transfer, same, ↓reduceIte, throw_eq, bind_eq, bind_error] at trace
    obtain ⟨rfl, rfl⟩ := trace.done_inv
    trivial
  rcases checked : Amount.ofDecimal amount with e | amount
  · simp only [transfer, same, checked, ↓reduceIte, check_eq, bind_eq,
      bind_error] at trace
    obtain ⟨rfl, rfl⟩ := trace.done_inv
    trivial
  simp only [transfer, same, checked, ↓reduceIte, check_eq, bind_eq, bind_ok] at trace
  rcases trace.lock_inv with ⟨rfl, rfl⟩ | ⟨-, rest⟩
  · rfl
  exact safe_transferWithRetries _ same consistent rest

theorem safe_issueCard (config : Config) (sealer : Sealer) (e : Entropy) (who : Identity)
    (owner : OwnerId) (expiry : Expiry) (opening : Balance) :
    (issueCard config sealer e who owner expiry opening).Safe (some e.drawnNonce) := by
  intro s consistent fresh held q trace
  rcases admin : who.requireAdmin "Issuing a card" with err | _
  · simp only [issueCard, admin, check_eq, bind_eq, bind_error] at trace
    obtain ⟨rfl, rfl⟩ := trace.done_inv
    trivial
  simp only [issueCard, admin, check_eq, bind_eq, bind_ok] at trace
  cases attempts : config.maxGenerationAttempts with
  | zero =>
    simp only [attempts, generateFrom, pure_eq, bind_ok, throw_eq] at trace
    obtain ⟨rfl, rfl⟩ := trace.done_inv
    trivial
  | succ attempts' =>
    obtain ⟨blob, sealed⟩ :
        ∃ blob, sealer.sealWithNonce e.drawnNonce e.candidate.text = some blob := by
      cases h : sealer.sealWithNonce e.drawnNonce e.candidate.text with
      | none => simp [Sealer.sealWithNonce, Entropy.candidate_isEmpty] at h
      | some blob => exact ⟨blob, rfl⟩
    have twelve : e.drawnNonce.length = Sealer.nonceLength := Entropy.length_bytes _ _
    have sealedUnder : blob.nonce = some e.drawnNonce := sealer.nonce_sealWithNonce twelve sealed
    have unused : s.hasNumber blob = false :=
      consistent.hasNumber_of_fresh_nonce twelve sealed (fresh e.drawnNonce rfl)
    simp only [attempts, generateFrom, sealed] at trace
    rcases trace.call_inv with ⟨rfl, rfl⟩ | ⟨o, -, relied, rest⟩
    · exact ⟨trivial, .inr ⟨rfl, e.drawnNonce, rfl, sealedUnder, by simp [unused]⟩⟩
    obtain ⟨n, -, -, rfl⟩ := relied
    simp only [bind_ok, Bool.false_eq_true, ↓reduceIte, pure_eq, perform] at rest
    rcases rest.call_inv with ⟨rfl, rfl⟩ | ⟨o, -, relied, -⟩
    · exact ⟨⟨e.drawnNonce, rfl, sealedUnder⟩, .inl ⟨_, rfl⟩⟩
    · exact relied.elim

end Script

namespace Call

theorem safe (c : Call) (config : Config) (sealer : Sealer) (e : Entropy) :
    (c.script config sealer e).Safe (c.nonce? e) := by
  cases c with
  | transfer who source target amount =>
    exact Script.Safe.map _ (Script.safe_transfer config who source target amount)
  | setStatus who id target => exact Script.Safe.map _ (Script.safe_setStatus who id target)
  | deleteCard who id => exact Script.Safe.map _ (Script.safe_deleteCard who id)
  | issueCard who owner expiry opening =>
    exact Script.Safe.map _ (Script.safe_issueCard config sealer e who owner expiry opening)
  | getBalance who id => exact Script.Safe.map _ (Script.safe_getBalance who id)
  | getTotalBalance who => exact Script.Safe.map _ (Script.safe_getTotalBalance who)
  | listCards who filter => exact Script.Safe.map _ (Script.safe_listCards who filter)

end Call

end CardLedger
