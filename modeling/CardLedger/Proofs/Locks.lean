import Mathlib
import CardLedger.Locks

/-!
# Mutual exclusion of the lock table

Whoever a request counts as held is the owner its card's entry names: `LockTable.Sound` says so
of every live request, together with distinct request names and cards listed once per request.
Every step keeps the table sound (`Sound.step`), and in a sound table two live requests never
count one card as held at once (`Sound.exclusive`).

The proof reads each operation through what it does to the owner of a card (`owner?`). Handing a
mutex to the first waiter makes that waiter the owner before it counts the card as held, so the
soundness of a table needs nothing about the queues.
-/

namespace CardLedger

namespace LockTable

/-! ## Owners after each operation -/

section Owners

variable (t : LockTable)

theorem entry?_modifyEntry {id : Uuid} {f : LockEntry → LockEntry}
    (keeps : ∀ e, (f e).id = e.id) (id' : Uuid) :
    LockTable.entry? (t.modifyEntry id f) id' =
      if id' = id then (t.entry? id).map f else t.entry? id' := by
  simp only [LockTable.entry?, modifyEntry, List.find?_map]
  have same : ((fun e : LockEntry => e.id == id') ∘ fun e => if e.id == id then f e else e) =
      fun e => e.id == id' := by
    funext e
    by_cases here : e.id = id <;> simp [here, keeps]
  rw [same]
  cases found : t.entries.find? (·.id == id') with
  | none =>
    by_cases here : id' = id
    · subst here
      simp [found]
    · simp [here]
  | some e =>
    have named := List.find?_some found
    simp only [beq_iff_eq] at named
    by_cases here : id' = id
    · subst here
      simp [found, named]
    · simp [named, here]

theorem owner?_modifyEntry {id : Uuid} {f : LockEntry → LockEntry}
    (keeps : ∀ e, (f e).id = e.id) (id' : Uuid) :
    (t.modifyEntry id f).owner? id' =
      if id' = id then ((t.entry? id).map f).bind (·.owner) else t.owner? id' := by
  show (LockTable.entry? (t.modifyEntry id f) id').bind (·.owner) = _
  rw [LockTable.entry?_modifyEntry t keeps]
  split <;> rfl

theorem owner?_ensure (id id' : Uuid) : (t.ensure id).owner? id' = t.owner? id' := by
  unfold ensure
  split
  · rfl
  · rename_i missing
    simp only [owner?, entry?, List.find?_append]
    cases found : t.entries.find? (·.id == id') with
    | some e => rfl
    | none =>
      simp only [Option.isSome_iff_ne_none, ne_eq, not_not, entry?] at missing
      by_cases here : id = id' <;> simp [here]

theorem entry?_ensure (id : Uuid) :
    ∃ e, LockTable.entry? (t.ensure id) id = some e ∧ e.owner = t.owner? id := by
  have owner := t.owner?_ensure id id
  unfold ensure at owner ⊢
  split
  · rename_i present
    obtain ⟨e, found⟩ := Option.isSome_iff_exists.mp present
    exact ⟨e, found, by simp [owner?, found]⟩
  · rename_i missing
    simp only [Option.isSome_iff_ne_none, ne_eq, not_not] at missing
    refine ⟨{ id }, ?_, by simp [owner?, missing]⟩
    simp only [LockTable.entry?] at missing ⊢
    simp [List.find?_append, missing]

theorem owner?_ask (name : String) (id id' : Uuid) :
    (t.ask name id).owner? id' =
      if id' = id ∧ t.owner? id = none then some name else t.owner? id' := by
  unfold ask
  rw [owner?_modifyEntry]
  · by_cases here : id' = id
    · subst here
      obtain ⟨e, found, owner⟩ := t.entry?_ensure id'
      rw [found]
      cases owned : e.owner with
      | none => simp [owned, ← owner]
      | some n => simp [owned, ← owner]
    · simp [here, owner?_ensure]
  · intro e
    split <;> rfl

theorem owner?_giveBack (id id' : Uuid) :
    (t.giveBack id).owner? id' =
      if id' = id then (t.entry? id).bind (·.queue.head?) else t.owner? id' := by
  unfold giveBack
  rw [owner?_modifyEntry]
  · by_cases here : id' = id
    · cases t.entry? id <;> simp [here]
    · simp [here]
  · intro e
    rfl

theorem owner?_withdraw (name : String) (id id' : Uuid) (mine : t.owner? id ≠ some name) :
    (t.withdraw name id).owner? id' = t.owner? id' := by
  unfold withdraw
  rw [if_neg mine, owner?_modifyEntry]
  · by_cases here : id' = id
    · subst here
      cases found : t.entry? id' <;> simp [owner?, found]
    · simp [here]
  · intro e
    rfl

theorem owner?_dropUnused (id id' : Uuid) :
    (t.dropUnused id).owner? id' =
      if t.inUse id = false ∧ id' = id then none else t.owner? id' := by
  unfold dropUnused
  by_cases used : t.inUse id
  · simp [used]
  · simp only [used, if_false, Bool.false_eq_true]
    simp only [owner?, entry?]
    by_cases here : id' = id
    · subst here
      rw [List.find?_eq_none.mpr (by simp)]
      simp
    · simp only [here, and_false, if_false]
      congr 1
      rw [List.find?_filter]
      congr 1
      funext e
      by_cases named : e.id = id' <;> simp [named, here]

end Owners

/-! ## Requests after each operation -/

@[simp] theorem requests_modifyEntry (t : LockTable) (id : Uuid) (f : LockEntry → LockEntry) :
    (t.modifyEntry id f).requests = t.requests := rfl

@[simp] theorem requests_ensure (t : LockTable) (id : Uuid) :
    (t.ensure id).requests = t.requests := by
  unfold ensure
  split <;> rfl

@[simp] theorem requests_ask (t : LockTable) (name : String) (id : Uuid) :
    (t.ask name id).requests = t.requests := by
  simp [ask]

@[simp] theorem requests_giveBack (t : LockTable) (id : Uuid) :
    (t.giveBack id).requests = t.requests := rfl

@[simp] theorem requests_withdraw (t : LockTable) (name : String) (id : Uuid) :
    (t.withdraw name id).requests = t.requests := by
  unfold withdraw
  split <;> rfl

@[simp] theorem requests_dropUnused (t : LockTable) (id : Uuid) :
    (t.dropUnused id).requests = t.requests := by
  unfold dropUnused
  split <;> rfl

/-! ## Soundness -/

def Owns (t : LockTable) (name : String) (ids : List Uuid) : Prop :=
  ∀ id ∈ ids, t.owner? id = some name

def Grows (t t' : LockTable) : Prop :=
  ∀ id name, t.owner? id = some name → t'.owner? id = some name

/-- The lock table is sound: request names are distinct, and every card a request counts as held
has its mutex with that request. -/
structure Sound (t : LockTable) : Prop where
  names : (t.requests.map (·.name)).Nodup
  owns : ∀ r ∈ t.requests, t.Owns r.name (r.ids.take r.held)

theorem Owns.grow {t t' : LockTable} {name : String} {ids : List Uuid} (owns : t.Owns name ids)
    (grows : Grows t t') : t'.Owns name ids :=
  fun id mem => grows id name (owns id mem)

theorem Grows.trans {t t' t'' : LockTable} (first : Grows t t') (second : Grows t' t'') :
    Grows t t'' :=
  fun id name owned => second id name (first id name owned)

theorem grows_ask (t : LockTable) (name : String) (id : Uuid) : Grows t (t.ask name id) := by
  intro id' owner owned
  rw [owner?_ask]
  by_cases here : id' = id
  · subst here
    simp [owned]
  · simp [here, owned]

theorem advance_shape (t : LockTable) (r : LockRequest) (fuel : Nat) :
    ∃ held, (t.advance r fuel).2 = { r with held } ∧
      (t.advance r fuel).1.requests = t.requests := by
  induction fuel generalizing t r with
  | zero => exact ⟨r.held, rfl, rfl⟩
  | succ fuel ih =>
    unfold advance
    split
    · exact ⟨r.held, rfl, rfl⟩
    · split
      · simp only
        split
        · exact ⟨r.held + 1, rfl, rfl⟩
        · rename_i second _
          obtain ⟨held, eq, requests⟩ := ih (t.ask r.name second) { r with held := r.held + 1 }
          exact ⟨held, eq, by simpa using requests⟩
      · exact ⟨r.held, rfl, rfl⟩

theorem advance_spec (t : LockTable) (r : LockRequest) (fuel : Nat)
    (owns : t.Owns r.name (r.ids.take r.held)) :
    Grows t (t.advance r fuel).1 ∧
      (t.advance r fuel).1.Owns r.name (r.ids.take (t.advance r fuel).2.held) := by
  induction fuel generalizing t r with
  | zero => exact ⟨fun _ _ owned => owned, owns⟩
  | succ fuel ih =>
    unfold advance
    cases waiting : r.waitingOn with
    | none => exact ⟨fun _ _ owned => owned, owns⟩
    | some first =>
      simp only
      split
      · rename_i handed
        -- the mutex waited on was handed over: one more card counts as held
        have next : t.Owns r.name (r.ids.take (r.held + 1)) := by
          intro id mem
          rw [List.take_add_one, List.mem_append] at mem
          rcases mem with old | new
          · exact owns id old
          · simp only [LockRequest.waitingOn] at waiting
            simp only [waiting, Option.toList_some, List.mem_singleton] at new
            rw [new, handed]
        simp only [LockRequest.waitingOn]
        split
        · exact ⟨fun _ _ owned => owned, next⟩
        · rename_i second _
          obtain ⟨grows, owns'⟩ :=
            ih (t.ask r.name second) { r with held := r.held + 1 } (next.grow (grows_ask _ _ _))
          exact ⟨(grows_ask _ _ _).trans grows, owns'⟩
      · exact ⟨fun _ _ owned => owned, owns⟩

@[simp] theorem owner?_update (t : LockTable) (r : LockRequest) (id : Uuid) :
    (t.update r).owner? id = t.owner? id := rfl

@[simp] theorem requests_update (t : LockTable) (r : LockRequest) :
    (t.update r).requests = t.requests.map fun x => if x.name == r.name then r else x := rfl

section Preservation

variable {t : LockTable}

theorem Sound.filter (sound : t.Sound) (name : String) :
    ({ t with requests := t.requests.filter (·.name != name) } : LockTable).Sound where
  names := sound.names.sublist (List.filter_sublist.map _)
  owns := fun r mem => sound.owns r (List.mem_of_mem_filter mem)

theorem Sound.of_grows {t' : LockTable} (sound : t.Sound) (requests : t'.requests = t.requests)
    (grows : Grows t t') : t'.Sound where
  names := requests ▸ sound.names
  owns := fun r mem => (sound.owns r (requests ▸ mem)).grow grows

theorem Sound.update (sound : t.Sound) {r : LockRequest}
    (owns : t.Owns r.name (r.ids.take r.held)) :
    (t.update r).Sound where
  names := by
    have same : (t.update r).requests.map (·.name) = t.requests.map (·.name) := by
      simp only [requests_update, List.map_map]
      congr 1
      funext x
      by_cases here : x.name = r.name <;> simp [here]
    rw [same]
    exact sound.names
  owns := by
    intro x mem
    simp only [requests_update, List.mem_map] at mem
    obtain ⟨y, mem, rfl⟩ := mem
    by_cases here : y.name = r.name
    · rw [if_pos (beq_iff_eq.mpr here)]
      exact owns
    · rw [if_neg (by simpa using here)]
      exact sound.owns y mem

theorem Sound.append (sound : t.Sound) {r : LockRequest} (fresh : t.find? r.name = none)
    (zero : r.held = 0) : ({ t with requests := t.requests ++ [r] } : LockTable).Sound where
  names := by
    simp only [find?, List.find?_eq_none, beq_iff_eq] at fresh
    simpa [List.nodup_append, sound.names] using fresh
  owns := by
    intro x mem
    rcases List.mem_append.mp mem with old | new
    · exact sound.owns x old
    · rw [List.mem_singleton.mp new, zero]
      simp [Owns]

theorem Sound.start (sound : t.Sound) {r : LockRequest} (fresh : t.find? r.name = none)
    (zero : r.held = 0) : (t.start r).Sound := by
  unfold LockTable.start
  split
  · exact sound.append fresh zero
  · rename_i first _
    have asked : ({ t.ask r.name first with requests := t.requests ++ [r] } : LockTable).Sound := by
      have grown := sound.of_grows (requests_ask t r.name first) (grows_ask t r.name first)
      simpa using grown.append (by simpa [find?] using fresh) zero
    obtain ⟨held, eq, requests⟩ := advance_shape
      ({ t.ask r.name first with requests := t.requests ++ [r] } : LockTable) r r.ids.length
    obtain ⟨grows, owns⟩ := advance_spec
      ({ t.ask r.name first with requests := t.requests ++ [r] } : LockTable) r r.ids.length
      (by simp [zero, Owns])
    simp only at asked eq requests grows owns ⊢
    rw [eq] at owns ⊢
    exact (asked.of_grows requests grows).update (r := { r with held }) owns

theorem Sound.giveBack (sound : t.Sound) {id : Uuid}
    (free : ∀ x ∈ t.requests, id ∉ x.ids.take x.held) : (t.giveBack id).Sound where
  names := sound.names
  owns := by
    intro x mem id' held
    have other : id' ≠ id := fun same => free x mem (same ▸ held)
    rw [owner?_giveBack, if_neg other]
    exact sound.owns x mem id' held

theorem Sound.foldl_giveBack (ids : List Uuid) (sound : t.Sound)
    (free : ∀ id ∈ ids, ∀ x ∈ t.requests, id ∉ x.ids.take x.held) :
    (ids.foldl LockTable.giveBack t).Sound := by
  induction ids generalizing t with
  | nil => exact sound
  | cons id rest ih =>
    exact ih (sound.giveBack (free id (by simp)))
      fun id' mem x held => free id' (by simp [mem]) x held

theorem Sound.dropUnused (sound : t.Sound) (id : Uuid) : (t.dropUnused id).Sound where
  names := by simpa using sound.names
  owns := by
    intro x mem id' held
    simp only [requests_dropUnused] at mem
    rw [owner?_dropUnused]
    -- a card held by a live request is in use, so its entry stays
    have used : id' = id → t.inUse id = true := by
      rintro rfl
      simp only [inUse, List.any_eq_true]
      refine ⟨x, mem, ?_⟩
      simp only [LockRequest.touched, List.contains_iff_mem]
      exact List.take_subset_take_left _ (by omega) held
    by_cases here : id' = id
    · simp [used here, sound.owns x mem id' held]
    · simp [here, sound.owns x mem id' held]

theorem Sound.foldl_dropUnused (ids : List Uuid) (sound : t.Sound) :
    (ids.foldl LockTable.dropUnused t).Sound := by
  induction ids generalizing t with
  | nil => exact sound
  | cons id rest ih => exact ih (sound.dropUnused id)

theorem Sound.withdraw (sound : t.Sound) {name : String} (id : Uuid)
    (gone : ∀ x ∈ t.requests, x.name ≠ name) : (t.withdraw name id).Sound := by
  by_cases handed : t.owner? id = some name
  · have free : ∀ x ∈ t.requests, id ∉ x.ids.take x.held := by
      intro x mem held
      have owned := sound.owns x mem id held
      rw [handed, Option.some_inj] at owned
      exact gone x mem owned.symm
    simpa [LockTable.withdraw, handed] using sound.giveBack free
  · exact sound.of_grows (requests_withdraw _ _ _)
      fun id' _ owned => (owner?_withdraw t name id id' handed).trans owned

@[simp] theorem requests_foldl_giveBack (ids : List Uuid) (t : LockTable) :
    (ids.foldl giveBack t).requests = t.requests := by
  induction ids generalizing t with
  | nil => rfl
  | cons id rest ih => simp [ih]

@[simp] theorem requests_foldl_dropUnused (ids : List Uuid) (t : LockTable) :
    (ids.foldl dropUnused t).requests = t.requests := by
  induction ids generalizing t with
  | nil => rfl
  | cons id rest ih => simp [ih]

@[simp] theorem requests_finish (t : LockTable) (r : LockRequest) :
    (t.finish r).requests = t.requests.filter (·.name != r.name) := by
  unfold finish
  split <;> split <;> simp

theorem Sound.finish (sound : t.Sound) {r : LockRequest} (mem : r ∈ t.requests) :
    (t.finish r).Sound := by
  have rest := sound.filter r.name
  have gone : ∀ x ∈ t.requests.filter (·.name != r.name), x.name ≠ r.name := by
    intro x mem
    simpa using (List.mem_filter.mp mem).2
  -- nothing left counts as held a mutex the ended request held
  have free : ∀ id ∈ r.ids.take r.held, ∀ x ∈ t.requests.filter (·.name != r.name),
      id ∉ x.ids.take x.held := by
    intro id held x kept held'
    have mine := sound.owns r mem id held
    rw [sound.owns x (List.mem_of_mem_filter kept) id held', Option.some_inj] at mine
    exact gone x kept mine
  -- the table once the request has withdrawn from the mutex it waits on
  obtain ⟨w, withdrawn, requests, eq⟩ : ∃ w : LockTable, w.Sound ∧
      w.requests = t.requests.filter (·.name != r.name) ∧
      t.finish r = if r.guarded then
        r.ids.foldl LockTable.dropUnused ((r.ids.take r.held).foldl LockTable.giveBack w)
      else w := by
    cases waiting : r.waitingOn with
    | none => exact ⟨_, rest, rfl, by simp [LockTable.finish, waiting]⟩
    | some id => exact ⟨_, rest.withdraw id gone, by simp, by simp [LockTable.finish, waiting]⟩
  rw [eq]
  split
  · refine Sound.foldl_dropUnused _ (Sound.foldl_giveBack _ withdrawn ?_)
    rw [requests]
    exact free
  · exact withdrawn

theorem Sound.step (sound : t.Sound) {s : LockStep} {t' : LockTable} (stepped : t.step s = .ok t') :
    t'.Sound := by
  cases s with
  | lock slot id =>
    simp only [LockTable.step] at stepped
    split at stepped
    · cases stepped
    · rename_i fresh
      cases stepped
      exact sound.start (by simpa using fresh) rfl
  | lockPair slot a b =>
    simp only [LockTable.step] at stepped
    split at stepped
    · cases stepped
    · rename_i fresh
      cases stepped
      exact sound.start (by simpa using fresh) rfl
  | poll slot =>
    simp only [LockTable.step] at stepped
    split at stepped
    · cases stepped
    · rename_i r found
      cases stepped
      have mem := List.mem_of_find?_eq_some found
      obtain ⟨held, eq, requests⟩ := advance_shape t r r.ids.length
      obtain ⟨grows, owns⟩ := advance_spec t r r.ids.length (sound.owns r mem)
      rcases advanced : t.advance r r.ids.length with ⟨t'', r'⟩
      rw [advanced] at eq requests grows owns
      simp only at eq requests grows owns ⊢
      subst eq
      exact (sound.of_grows requests grows).update (r := { r with held }) owns
  | release slot =>
    simp only [LockTable.step] at stepped
    split at stepped
    · cases stepped
    · rename_i r found
      cases stepped
      exact sound.finish (List.mem_of_find?_eq_some found)

theorem Sound.exclusive (sound : t.Sound) {a b : LockRequest} (memA : a ∈ t.requests)
    (memB : b ∈ t.requests) (distinct : a.name ≠ b.name) {id : Uuid}
    (heldA : id ∈ a.ids.take a.held) : id ∉ b.ids.take b.held := by
  intro heldB
  have owner := sound.owns a memA id heldA
  rw [sound.owns b memB id heldB, Option.some_inj] at owner
  exact distinct owner.symm

end Preservation

/-! ## Finding a request after a step -/

section Finding

variable (t : LockTable)

@[simp] theorem find?_update (r : LockRequest) (n : String) :
    (t.update r).find? n = if n = r.name then (t.find? n).map fun _ => r else t.find? n := by
  have same : (fun x : LockRequest => (if x.name == r.name then r else x).name == n) =
      (·.name == n) := by
    funext x
    by_cases here : x.name = r.name <;> simp [here]
  simp only [find?, update, List.find?_map, Function.comp_def, same]
  cases found : t.requests.find? (·.name == n) with
  | none => simp
  | some x =>
    have named : x.name = n := by simpa using List.find?_some found
    by_cases self : n = r.name <;> simp [named, self]

@[simp] theorem find?_finish (r : LockRequest) (n : String) :
    (t.finish r).find? n = if n = r.name then none else t.find? n := by
  simp only [find?, requests_finish, List.find?_filter]
  split
  · rename_i self
    simp [self]
  · rename_i other
    congr 1
    funext x
    by_cases here : x.name = n
    · simp [here, other]
    · simp [here]

theorem find?_advance (r : LockRequest) (fuel : Nat) (n : String) :
    (t.advance r fuel).1.find? n = t.find? n := by
  obtain ⟨-, -, requests⟩ := advance_shape t r fuel
  simp only [find?, requests]

theorem find?_start {r : LockRequest} (fresh : t.find? r.name = none) (n : String) :
    ∃ held, (t.start r).find? n = if n = r.name then some { r with held } else t.find? n := by
  unfold LockTable.start
  split
  · refine ⟨r.held, ?_⟩
    by_cases self : n = r.name
    · subst self
      simp only [find?] at fresh
      simp [find?, fresh]
    · simp [find?, self, Ne.symm self]
  · rename_i first _
    obtain ⟨held, eq, -⟩ := advance_shape
      ({ t.ask r.name first with requests := t.requests ++ [r] } : LockTable) r r.ids.length
    refine ⟨held, ?_⟩
    simp only at eq ⊢
    rw [find?_update, find?_advance, eq]
    by_cases self : n = r.name
    · simp_all [find?]
    · simp [find?, self, Ne.symm self]

end Finding

end LockTable

def LockStep.slot : LockStep → String
  | .lock slot _ | .lockPair slot _ _ | .poll slot | .release slot => slot

namespace LockTable

variable {t t' : LockTable}

theorem find?_step_of_ne {s : LockStep} (stepped : t.step s = .ok t') {n : String}
    (other : n ≠ s.slot) : t'.find? n = t.find? n := by
  cases s with
  | lock slot id =>
    simp only [step] at stepped
    split at stepped
    · cases stepped
    · rename_i fresh
      cases stepped
      obtain ⟨held, eq⟩ := find?_start t (r := { name := slot, ids := [id], pair := false })
        (by simpa using fresh) n
      simp only [LockStep.slot] at other
      simpa [other] using eq
  | lockPair slot a b =>
    simp only [step] at stepped
    split at stepped
    · cases stepped
    · rename_i fresh
      cases stepped
      obtain ⟨held, eq⟩ :=
        find?_start t (r := { name := slot, ids := pairIds a b, pair := true })
        (by simpa using fresh) n
      simp only [LockStep.slot] at other
      simpa [other] using eq
  | poll slot =>
    simp only [step] at stepped
    split at stepped
    · cases stepped
    · rename_i r found
      cases stepped
      have named : r.name = slot := by simpa using List.find?_some found
      obtain ⟨held, eq, -⟩ := advance_shape t r r.ids.length
      simp only [LockStep.slot] at other
      simp [eq, named, other, find?_advance]
  | release slot =>
    simp only [step] at stepped
    split at stepped
    · cases stepped
    · rename_i r found
      cases stepped
      have named : r.name = slot := by simpa using List.find?_some found
      simp only [LockStep.slot] at other
      simp [named, other]

theorem find?_step_lock {slot : String} (fresh : t.find? slot = none) (id : Uuid) :
    ∃ t' held, t.step (.lock slot id) = .ok t' ∧
      t'.find? slot = some { name := slot, ids := [id], held, pair := false } := by
  obtain ⟨held, eq⟩ := find?_start t (r := { name := slot, ids := [id], pair := false })
    fresh slot
  exact ⟨t.start { name := slot, ids := [id], pair := false }, held, by simp [step, fresh],
    by simpa using eq⟩

theorem find?_step_lockPair {slot : String} (fresh : t.find? slot = none) (a b : Uuid) :
    ∃ t' held, t.step (.lockPair slot a b) = .ok t' ∧
      t'.find? slot = some { name := slot, ids := pairIds a b, held, pair := true } := by
  obtain ⟨held, eq⟩ := find?_start t (r := { name := slot, ids := pairIds a b, pair := true })
    fresh slot
  exact ⟨t.start { name := slot, ids := pairIds a b, pair := true }, held,
    by simp [step, fresh], by simpa using eq⟩

theorem find?_step_poll {slot : String} {r : LockRequest} (found : t.find? slot = some r) :
    ∃ t' held, t.step (.poll slot) = .ok t' ∧ t'.find? slot = some { r with held } := by
  have named : r.name = slot := by simpa using List.find?_some found
  obtain ⟨held, eq, -⟩ := advance_shape t r r.ids.length
  refine ⟨(t.advance r r.ids.length).1.update (t.advance r r.ids.length).2, held,
    by simp [step, found], ?_⟩
  simp [eq, named, find?_advance, found]

end LockTable

end CardLedger
