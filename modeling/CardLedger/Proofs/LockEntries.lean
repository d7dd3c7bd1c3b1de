import Mathlib
import CardLedger.Proofs.LockOrder

/-!
# How long lock-table entries live

An entry of the lock table keeps the mutex of one card: who holds it or was handed it, and who
waits in line. The table names only live requests (`LockTable.Live`): the owner of a mutex is a
request that holds or waits on that card, everyone in a line is a live request waiting on that
card, once and not as its owner, and every card a live request holds or waits on has its entry.
Every step keeps this (`Live.step`).

So an entry that no live request uses has no owner and nobody in line: it is idle. A request
with a guard drops the entries of its cards that nobody uses when it is given back; a single
`lock` has no guard until it holds its card, and releasing it while it waits drops nothing. If
its mutex had already been handed to it and nobody waits behind it, its entry stays idle in the
table with nobody left to drop it. Every other step keeps the entries exactly the cards in use
(`Exact.step`), so a run that never releases a waiting single lock ends, once every request is
gone, with no entry at all (`ofSteps_entries_in_use_or_idle`).
-/

namespace CardLedger

namespace LockTable

/-! ## Lines and entries -/

def queueOf (t : LockTable) (id : Uuid) : List String := ((t.entry? id).map (·.queue)).getD []

def tracks (t : LockTable) (id : Uuid) : Bool := (t.entry? id).isSome

section Views

variable (t : LockTable)

theorem bind_head?_eq (id : Uuid) :
    (t.entry? id).bind (·.queue.head?) = (t.queueOf id).head? := by
  unfold queueOf
  cases t.entry? id <;> rfl

theorem entry?_ensure_eq (id id' : Uuid) :
    LockTable.entry? (t.ensure id) id' =
      if id' = id ∧ t.entry? id = none then some { id } else t.entry? id' := by
  unfold ensure
  split
  · rename_i present
    have found : t.entry? id ≠ none := Option.isSome_iff_ne_none.mp present
    simp [found]
  · rename_i missing
    have none : t.entries.find? (·.id == id) = none := by simpa [LockTable.entry?] using missing
    simp only [LockTable.entry?, List.find?_append]
    by_cases here : id' = id
    · subst here
      simp [none]
    · simp [here, Ne.symm here]

theorem tracks_modifyEntry {id : Uuid} {f : LockEntry → LockEntry}
    (keeps : ∀ e, (f e).id = e.id) (id' : Uuid) :
    (t.modifyEntry id f).tracks id' = t.tracks id' := by
  unfold tracks
  rw [LockTable.entry?_modifyEntry t keeps]
  split
  · rename_i here
    subst here
    cases t.entry? id' <;> rfl
  · rfl

theorem queueOf_modifyEntry {id : Uuid} {f : LockEntry → LockEntry}
    (keeps : ∀ e, (f e).id = e.id) (id' : Uuid) : (t.modifyEntry id f).queueOf id' =
      if id' = id then (((t.entry? id).map f).map (·.queue)).getD [] else t.queueOf id' := by
  unfold queueOf
  rw [LockTable.entry?_modifyEntry t keeps]
  split <;> rfl

theorem tracks_ensure (id id' : Uuid) : (t.ensure id).tracks id' = (id' == id || t.tracks id') := by
  unfold tracks
  rw [LockTable.entry?_ensure_eq]
  by_cases here : id' = id
  · subst here
    cases t.entry? id' <;> simp
  · simp [here]

theorem queueOf_ensure (id id' : Uuid) : (t.ensure id).queueOf id' = t.queueOf id' := by
  unfold queueOf
  rw [LockTable.entry?_ensure_eq]
  split
  · rename_i fresh
    simp [fresh.2, fresh.1]
  · rfl

theorem tracks_ask (name : String) (id id' : Uuid) :
    (t.ask name id).tracks id' = (id' == id || t.tracks id') := by
  unfold ask
  rw [tracks_modifyEntry _ (fun e => by split <;> rfl), tracks_ensure]

theorem queueOf_ask (name : String) (id id' : Uuid) :
    (t.ask name id).queueOf id' =
      if id' = id ∧ t.owner? id ≠ none then t.queueOf id ++ [name] else t.queueOf id' := by
  unfold ask
  rw [queueOf_modifyEntry _ (fun e => by split <;> rfl)]
  by_cases here : id' = id
  · subst here
    obtain ⟨e, found, owner⟩ := t.entry?_ensure id'
    have line : e.queue = t.queueOf id' := by
      rw [← queueOf_ensure t id' id']
      simp [queueOf, found]
    rw [found]
    cases owned : e.owner with
    | none => simp [owned, ← owner, line]
    | some n => simp [owned, ← owner, line]
  · simp [here, queueOf_ensure]

theorem tracks_giveBack (id id' : Uuid) : (t.giveBack id).tracks id' = t.tracks id' :=
  tracks_modifyEntry t (fun _ => by rfl) id'

theorem queueOf_giveBack (id id' : Uuid) :
    (t.giveBack id).queueOf id' = if id' = id then (t.queueOf id).tail else t.queueOf id' := by
  unfold giveBack
  rw [queueOf_modifyEntry t (fun _ => by rfl)]
  by_cases here : id' = id
  · subst here
    unfold queueOf
    cases t.entry? id' <;> simp
  · simp [here]

theorem owner?_giveBack_eq (id id' : Uuid) :
    (t.giveBack id).owner? id' = if id' = id then (t.queueOf id).head? else t.owner? id' := by
  rw [owner?_giveBack, bind_head?_eq]

theorem tracks_withdraw (name : String) (id id' : Uuid) :
    (t.withdraw name id).tracks id' = t.tracks id' := by
  unfold withdraw
  split
  · exact tracks_giveBack t id id'
  · exact tracks_modifyEntry t (fun _ => by rfl) id'

theorem owner?_withdraw_eq (name : String) (id id' : Uuid) :
    (t.withdraw name id).owner? id' =
      if t.owner? id = some name ∧ id' = id then (t.queueOf id).head? else t.owner? id' := by
  by_cases handed : t.owner? id = some name
  · simp only [withdraw, handed, if_true, true_and]
    exact owner?_giveBack_eq t id id'
  · simp only [handed, false_and, if_false]
    exact owner?_withdraw t name id id' handed

theorem queueOf_withdraw (name : String) (id id' : Uuid) :
    (t.withdraw name id).queueOf id' =
      if id' = id then
        if t.owner? id = some name then (t.queueOf id).tail else (t.queueOf id).erase name
      else t.queueOf id' := by
  unfold withdraw
  split
  · rw [queueOf_giveBack]
  · rename_i waited
    rw [queueOf_modifyEntry t (fun _ => by rfl)]
    by_cases here : id' = id
    · subst here
      unfold queueOf
      cases t.entry? id' <;> simp
    · simp [here]

theorem entry?_dropUnused (id id' : Uuid) :
    LockTable.entry? (t.dropUnused id) id' =
      if t.inUse id = false ∧ id' = id then none else t.entry? id' := by
  unfold dropUnused
  by_cases used : t.inUse id
  · simp [used]
  · simp only [used, if_false, Bool.false_eq_true]
    simp only [LockTable.entry?]
    by_cases here : id' = id
    · subst here
      rw [List.find?_eq_none.mpr (by simp)]
      simp
    · simp only [here, and_false, if_false]
      rw [List.find?_filter]
      congr 1
      funext e
      by_cases named : e.id = id' <;> simp [named, here]

theorem tracks_dropUnused (id id' : Uuid) :
    (t.dropUnused id).tracks id' =
      if t.inUse id = false ∧ id' = id then false else t.tracks id' := by
  unfold tracks
  rw [LockTable.entry?_dropUnused]
  split <;> rfl

theorem queueOf_dropUnused (id id' : Uuid) :
    (t.dropUnused id).queueOf id' =
      if t.inUse id = false ∧ id' = id then [] else t.queueOf id' := by
  unfold queueOf
  rw [LockTable.entry?_dropUnused]
  split <;> rfl

end Views

/-! ## Requests leave the entries alone -/

@[simp] theorem entry?_withRequests (t : LockTable) (rs : List LockRequest) (id : Uuid) :
    LockTable.entry? { t with requests := rs } id = t.entry? id := rfl

@[simp] theorem owner?_withRequests (t : LockTable) (rs : List LockRequest) (id : Uuid) :
    ({ t with requests := rs } : LockTable).owner? id = t.owner? id := rfl

@[simp] theorem queueOf_withRequests (t : LockTable) (rs : List LockRequest) (id : Uuid) :
    ({ t with requests := rs } : LockTable).queueOf id = t.queueOf id := rfl

@[simp] theorem tracks_withRequests (t : LockTable) (rs : List LockRequest) (id : Uuid) :
    ({ t with requests := rs } : LockTable).tracks id = t.tracks id := rfl

@[simp] theorem queueOf_update (t : LockTable) (r : LockRequest) (id : Uuid) :
    (t.update r).queueOf id = t.queueOf id := rfl

@[simp] theorem tracks_update (t : LockTable) (r : LockRequest) (id : Uuid) :
    (t.update r).tracks id = t.tracks id := rfl

@[simp] theorem entry?_update (t : LockTable) (r : LockRequest) (id : Uuid) :
    LockTable.entry? (t.update r) id = t.entry? id := rfl

/-! ## Requests: what they touch, and replacing one -/

theorem mem_touched {r : LockRequest} {id : Uuid} :
    id ∈ r.touched ↔ id ∈ r.ids.take r.held ∨ r.waitingOn = some id := by
  simp only [LockRequest.touched, LockRequest.waitingOn, List.take_add_one, List.mem_append,
    Option.mem_toList]

theorem touched_next (r : LockRequest) :
    ({ r with held := r.held + 1 } : LockRequest).touched =
      r.touched ++ ({ r with held := r.held + 1 } : LockRequest).waitingOn.toList :=
  List.take_add_one

theorem inUse_of_touched {t : LockTable} {r : LockRequest} (mem : r ∈ t.requests) {id : Uuid}
    (touched : id ∈ r.touched) : t.inUse id = true := by
  simp only [inUse, List.any_eq_true, List.contains_iff_mem]
  exact ⟨r, mem, touched⟩

section Replacing

variable {t : LockTable}

theorem names_update (t : LockTable) (r : LockRequest) :
    (t.update r).requests.map (·.name) = t.requests.map (·.name) := by
  simp only [requests_update, List.map_map]
  congr 1
  funext x
  by_cases here : x.name = r.name <;> simp [here]

theorem mem_update_of_ne {r x : LockRequest} (mem : x ∈ t.requests) (other : x.name ≠ r.name) :
    x ∈ (t.update r).requests := by
  simp only [requests_update, List.mem_map]
  exact ⟨x, mem, by simp [other]⟩

theorem mem_update_self {r x : LockRequest} (mem : x ∈ t.requests) (same : x.name = r.name) :
    r ∈ (t.update r).requests := by
  simp only [requests_update, List.mem_map]
  exact ⟨x, mem, by simp [same]⟩

theorem update_self (names : (t.requests.map (·.name)).Nodup) {r : LockRequest}
    (mem : r ∈ t.requests) : t.update r = t := by
  have same : t.requests.map (fun x => if x.name == r.name then r else x) = t.requests := by
    conv_rhs => rw [← List.map_id t.requests]
    apply List.map_congr_left
    intro x memX
    by_cases named : x.name = r.name
    · simp [List.inj_on_of_nodup_map names memX mem named]
    · simp [named]
  unfold update
  rw [same]

theorem update_update {a b : LockRequest} (same : a.name = b.name) :
    (t.update a).update b = t.update b := by
  simp only [update, List.map_map]
  congr 2
  funext x
  by_cases here : x.name = b.name
  · simp [here, same]
  · simp [here, same]

theorem ask_update (x : LockRequest) (name : String) (id : Uuid) :
    (t.update x).ask name id = (t.ask name id).update x := by
  by_cases present : (t.entry? id).isSome
  · simp [ask, ensure, modifyEntry, update, present]
  · simp [ask, ensure, modifyEntry, update, present]

theorem ask_withRequests (rs : List LockRequest) (name : String) (id : Uuid) :
    ({ t with requests := rs } : LockTable).ask name id =
      { t.ask name id with requests := rs } := by
  by_cases present : (t.entry? id).isSome
  · simp [ask, ensure, modifyEntry, present]
  · simp [ask, ensure, modifyEntry, present]

theorem advance_update (x r : LockRequest) (fuel : Nat) :
    (t.update x).advance r fuel = ((t.advance r fuel).1.update x, (t.advance r fuel).2) := by
  induction fuel generalizing t r with
  | zero => rfl
  | succ fuel ih =>
    unfold advance
    cases r.waitingOn with
    | none => rfl
    | some id =>
      simp only [owner?_update]
      by_cases handed : t.owner? id = some r.name
      · simp only [handed, if_true]
        split
        · rfl
        · rw [ask_update, ih]
      · simp only [handed, if_false]

end Replacing

/-! ## The table names only live requests -/

/-- The table names only live requests: the owner of a mutex holds or waits on its card, and a
card's line holds live requests waiting on that card, each once and none of them its owner. A
single lock asks for one card. -/
structure Live (t : LockTable) : Prop where
  owners : ∀ id n, t.owner? id = some n → ∃ r ∈ t.requests, r.name = n ∧ id ∈ r.touched
  once : ∀ id, (t.queueOf id).Nodup
  notOwner : ∀ id n, n ∈ t.queueOf id → t.owner? id ≠ some n
  waiters : ∀ id n, n ∈ t.queueOf id → ∃ r ∈ t.requests, r.name = n ∧ r.waitingOn = some id
  single : ∀ r ∈ t.requests, r.pair = false → r.ids.length = 1

def Tracked (t : LockTable) : Prop := ∀ r ∈ t.requests, ∀ id ∈ r.touched, t.tracks id

section Live

variable {t : LockTable}

theorem live_empty : ({} : LockTable).Live where
  owners := fun _ _ owned => by simp [owner?, entry?] at owned
  once := fun _ => by simp [queueOf, entry?]
  notOwner := fun _ _ queued => by simp [queueOf, entry?] at queued
  waiters := fun _ _ queued => by simp [queueOf, entry?] at queued
  single := fun _ mem => nomatch mem

theorem Live.ask (live : t.Live) {x : LockRequest} (mem : x ∈ t.requests) {c : Uuid}
    (waiting : x.waitingOn = some c) (outOfLine : x.name ∉ t.queueOf c)
    (notMine : t.owner? c ≠ some x.name) : (t.ask x.name c).Live where
  owners := by
    intro id n owned
    rw [owner?_ask] at owned
    split at owned
    · rename_i free
      obtain ⟨rfl, -⟩ := free
      cases owned
      exact ⟨x, by simpa using mem, rfl, mem_touched.mpr (.inr waiting)⟩
    · simpa using live.owners id n owned
  once := by
    intro id
    rw [queueOf_ask]
    split
    · refine List.nodup_append.mpr ⟨live.once c, List.nodup_singleton _, ?_⟩
      intro a queued b joined same
      rw [List.mem_singleton.mp joined] at same
      exact outOfLine (same ▸ queued)
    · exact live.once id
  notOwner := by
    intro id n queued
    rw [queueOf_ask] at queued
    rw [owner?_ask]
    split at queued
    · rename_i line
      obtain ⟨rfl, taken⟩ := line
      rw [if_neg fun free => taken free.2]
      rcases List.mem_append.mp queued with old | new
      · exact live.notOwner id n old
      · rw [List.mem_singleton.mp new]
        exact notMine
    · split
      · rename_i free
        obtain ⟨rfl, -⟩ := free
        intro same
        cases same
        exact outOfLine queued
      · exact live.notOwner id n queued
  waiters := by
    intro id n queued
    rw [queueOf_ask] at queued
    simp only [requests_ask]
    split at queued
    · rename_i line
      obtain ⟨rfl, -⟩ := line
      rcases List.mem_append.mp queued with old | new
      · exact live.waiters id n old
      · exact ⟨x, mem, (List.mem_singleton.mp new).symm, waiting⟩
    · exact live.waiters id n queued
  single := by simpa using live.single

theorem Live.take (live : t.Live) (names : (t.requests.map (·.name)).Nodup) {r : LockRequest}
    (mem : r ∈ t.requests) {id : Uuid} (waiting : r.waitingOn = some id)
    (handed : t.owner? id = some r.name) : (t.update { r with held := r.held + 1 }).Live where
  owners := by
    intro c n owned
    obtain ⟨x, memX, named, touched⟩ := live.owners c n owned
    by_cases same : x.name = r.name
    · obtain rfl := List.inj_on_of_nodup_map names memX mem same
      refine ⟨{ x with held := x.held + 1 }, mem_update_self memX rfl, named, ?_⟩
      rw [touched_next]
      exact List.mem_append_left _ touched
    · exact ⟨x, mem_update_of_ne memX same, named, touched⟩
  once := live.once
  notOwner := live.notOwner
  waiters := by
    intro c n queued
    obtain ⟨x, memX, named, waitingX⟩ := live.waiters c n queued
    by_cases same : x.name = r.name
    · -- the request was handed its mutex, so it stands in no line
      obtain rfl := List.inj_on_of_nodup_map names memX mem same
      rw [waiting, Option.some_inj] at waitingX
      subst waitingX
      exact absurd (named ▸ handed) (live.notOwner id n queued)
    · exact ⟨x, mem_update_of_ne memX same, named, waitingX⟩
  single := by
    intro x memX plain
    rcases mem_requests_update memX with old | rfl
    · exact live.single x old plain
    · exact live.single r mem plain

theorem Live.giveBack (live : t.Live) (c : Uuid) : (t.giveBack c).Live where
  owners := by
    intro id n owned
    rw [owner?_giveBack_eq] at owned
    split at owned
    · rename_i here
      subst here
      obtain ⟨x, memX, named, waitingX⟩ := live.waiters id n (List.mem_of_mem_head? owned)
      exact ⟨x, memX, named, mem_touched.mpr (.inr waitingX)⟩
    · exact live.owners id n owned
  once := by
    intro id
    rw [queueOf_giveBack]
    split
    · exact (live.once c).tail
    · exact live.once id
  notOwner := by
    intro id n queued
    rw [queueOf_giveBack] at queued
    rw [owner?_giveBack_eq]
    split at queued
    · rename_i here
      subst here
      rw [if_pos rfl]
      have once := live.once id
      cases line : t.queueOf id with
      | nil => simp [line] at queued
      | cons first rest =>
        rw [line] at queued once
        intro same
        cases same
        exact (List.nodup_cons.mp once).1 queued
    · rw [if_neg ‹_›]
      exact live.notOwner id n queued
  waiters := by
    intro id n queued
    rw [queueOf_giveBack] at queued
    split at queued
    · rename_i here
      subst here
      exact live.waiters id n (List.mem_of_mem_tail queued)
    · exact live.waiters id n queued
  single := live.single

theorem Live.foldl_giveBack (ids : List Uuid) (live : t.Live) :
    (ids.foldl LockTable.giveBack t).Live := by
  induction ids generalizing t with
  | nil => exact live
  | cons c rest ih => exact ih (live.giveBack c)

theorem Live.withdraw (live : t.Live) (name : String) (c : Uuid) : (t.withdraw name c).Live := by
  by_cases handed : t.owner? c = some name
  · simpa [LockTable.withdraw, handed] using live.giveBack c
  · have owners : ∀ id, (t.withdraw name c).owner? id = t.owner? id := by
      intro id
      rw [owner?_withdraw_eq, if_neg fun both => handed both.1]
    have lines : ∀ id, (t.withdraw name c).queueOf id =
        if id = c then (t.queueOf c).erase name else t.queueOf id := by
      intro id
      rw [queueOf_withdraw, if_neg handed]
    exact {
      owners := fun id n owned => by
        rw [owners] at owned
        simpa using live.owners id n owned
      once := fun id => by
        rw [lines]
        split
        · exact (live.once c).erase name
        · exact live.once id
      notOwner := fun id n queued => by
        rw [owners]
        rw [lines] at queued
        split at queued
        · rename_i here
          subst here
          exact live.notOwner id n (List.mem_of_mem_erase queued)
        · exact live.notOwner id n queued
      waiters := fun id n queued => by
        rw [lines] at queued
        simp only [requests_withdraw]
        split at queued
        · rename_i here
          subst here
          exact live.waiters id n (List.mem_of_mem_erase queued)
        · exact live.waiters id n queued
      single := by simpa using live.single }

theorem Live.dropUnused (live : t.Live) (c : Uuid) : (t.dropUnused c).Live where
  owners := by
    intro id n owned
    rw [owner?_dropUnused] at owned
    split at owned
    · cases owned
    · simpa using live.owners id n owned
  once := by
    intro id
    rw [queueOf_dropUnused]
    split
    · exact List.nodup_nil
    · exact live.once id
  notOwner := by
    intro id n queued
    rw [queueOf_dropUnused] at queued
    rw [owner?_dropUnused]
    split at queued
    · cases queued
    · rw [if_neg ‹_›]
      exact live.notOwner id n queued
  waiters := by
    intro id n queued
    rw [queueOf_dropUnused] at queued
    simp only [requests_dropUnused]
    split at queued
    · cases queued
    · exact live.waiters id n queued
  single := by simpa using live.single

theorem Live.foldl_dropUnused (ids : List Uuid) (live : t.Live) :
    (ids.foldl LockTable.dropUnused t).Live := by
  induction ids generalizing t with
  | nil => exact live
  | cons c rest ih => exact ih (live.dropUnused c)

theorem Live.remove (live : t.Live) (name : String) (noOwner : ∀ c, t.owner? c ≠ some name)
    (noLine : ∀ c, name ∉ t.queueOf c) :
    ({ t with requests := t.requests.filter (·.name != name) } : LockTable).Live where
  owners := by
    intro id n owned
    obtain ⟨x, memX, named, touched⟩ := live.owners id n owned
    have other : x.name ≠ name := fun same => noOwner id (same ▸ named ▸ owned)
    exact ⟨x, List.mem_filter.mpr ⟨memX, by simpa using other⟩, named, touched⟩
  once := live.once
  notOwner := live.notOwner
  waiters := by
    intro id n queued
    obtain ⟨x, memX, named, waitingX⟩ := live.waiters id n queued
    have other : x.name ≠ name := fun same => noLine id (same ▸ named ▸ queued)
    exact ⟨x, List.mem_filter.mpr ⟨memX, by simpa using other⟩, named, waitingX⟩
  single := fun x memX => live.single x (List.mem_of_mem_filter memX)

theorem Live.append (live : t.Live) {r : LockRequest}
    (single : r.pair = false → r.ids.length = 1) :
    ({ t with requests := t.requests ++ [r] } : LockTable).Live where
  owners := by
    intro id n owned
    obtain ⟨x, memX, named, touched⟩ := live.owners id n owned
    exact ⟨x, List.mem_append_left _ memX, named, touched⟩
  once := live.once
  notOwner := live.notOwner
  waiters := by
    intro id n queued
    obtain ⟨x, memX, named, waitingX⟩ := live.waiters id n queued
    exact ⟨x, List.mem_append_left _ memX, named, waitingX⟩
  single := by
    intro x memX plain
    rcases List.mem_append.mp memX with old | new
    · exact live.single x old plain
    · rw [List.mem_singleton.mp new]
      exact single (List.mem_singleton.mp new ▸ plain)

end Live

/-! ## Tables after several operations -/

section Folds

variable (t : LockTable)

@[simp] theorem tracks_foldl_giveBack (ids : List Uuid) (c : Uuid) :
    (ids.foldl LockTable.giveBack t).tracks c = t.tracks c := by
  induction ids generalizing t with
  | nil => rfl
  | cons id rest ih => rw [List.foldl_cons, ih, tracks_giveBack]

theorem owner?_foldl_giveBack {ids : List Uuid} (distinct : ids.Nodup) (c : Uuid) :
    (ids.foldl LockTable.giveBack t).owner? c =
      if c ∈ ids then (t.queueOf c).head? else t.owner? c := by
  induction ids generalizing t with
  | nil => simp
  | cons id rest ih =>
    have parts := List.nodup_cons.mp distinct
    rw [List.foldl_cons, ih _ parts.2, owner?_giveBack_eq, queueOf_giveBack]
    by_cases here : c = id
    · subst here
      simp [parts.1]
    · simp [here]

theorem queueOf_foldl_giveBack {ids : List Uuid} (distinct : ids.Nodup) (c : Uuid) :
    (ids.foldl LockTable.giveBack t).queueOf c =
      if c ∈ ids then (t.queueOf c).tail else t.queueOf c := by
  induction ids generalizing t with
  | nil => simp
  | cons id rest ih =>
    have parts := List.nodup_cons.mp distinct
    rw [List.foldl_cons, ih _ parts.2, queueOf_giveBack]
    by_cases here : c = id
    · subst here
      simp [parts.1]
    · simp [here]

@[simp] theorem inUse_dropUnused (c id : Uuid) : (t.dropUnused c).inUse id = t.inUse id := by
  simp [inUse]

theorem tracks_foldl_dropUnused (ids : List Uuid) (c : Uuid) :
    (ids.foldl LockTable.dropUnused t).tracks c =
      if c ∈ ids ∧ t.inUse c = false then false else t.tracks c := by
  induction ids generalizing t with
  | nil => simp
  | cons id rest ih =>
    rw [List.foldl_cons, ih, inUse_dropUnused, tracks_dropUnused]
    by_cases here : c = id
    · subst here
      by_cases used : t.inUse c <;> simp [used]
    · simp [here]

theorem giveBack_withRequests (rs : List LockRequest) (c : Uuid) :
    ({ t with requests := rs } : LockTable).giveBack c = { t.giveBack c with requests := rs } :=
  rfl

theorem withdraw_withRequests (rs : List LockRequest) (name : String) (c : Uuid) :
    ({ t with requests := rs } : LockTable).withdraw name c =
      { t.withdraw name c with requests := rs } := by
  by_cases handed : t.owner? c = some name
  · simp [LockTable.withdraw, handed, giveBack_withRequests]
  · simp [LockTable.withdraw, handed, modifyEntry]

theorem foldl_giveBack_withRequests (rs : List LockRequest) (ids : List Uuid) :
    ids.foldl LockTable.giveBack ({ t with requests := rs } : LockTable) =
      { ids.foldl LockTable.giveBack t with requests := rs } := by
  induction ids generalizing t with
  | nil => rfl
  | cons id rest ih => simp only [List.foldl_cons, giveBack_withRequests, ih]

def withdrawFrom (r : LockRequest) : LockTable :=
  match r.waitingOn with
  | some id => t.withdraw r.name id
  | none => t

def giveHeld (r : LockRequest) : LockTable :=
  if r.guarded then (r.ids.take r.held).foldl LockTable.giveBack t else t

def leave (r : LockRequest) : LockTable :=
  { (t.withdrawFrom r).giveHeld r with requests := t.requests.filter (·.name != r.name) }

@[simp] theorem requests_leave (r : LockRequest) :
    (t.leave r).requests = t.requests.filter (·.name != r.name) := rfl

@[simp] theorem tracks_leave (r : LockRequest) (id : Uuid) :
    (t.leave r).tracks id = t.tracks id := by
  show ((t.withdrawFrom r).giveHeld r).tracks id = t.tracks id
  unfold giveHeld withdrawFrom
  split <;> split <;> simp [tracks_withdraw]

theorem finish_eq (r : LockRequest) :
    t.finish r = if r.guarded then r.ids.foldl LockTable.dropUnused (t.leave r) else t.leave r := by
  unfold finish leave giveHeld withdrawFrom
  cases r.waitingOn <;> cases r.guarded <;>
    simp [withdraw_withRequests, foldl_giveBack_withRequests]

end Folds

/-! ## Every step keeps the table live -/

section Steps

variable {t : LockTable}

theorem tracked_empty : ({} : LockTable).Tracked := fun _ mem => nomatch mem

theorem Tracked.take (tracked : t.Tracked) {r : LockRequest} (mem : r ∈ t.requests) :
    ∀ x ∈ (t.update { r with held := r.held + 1 }).requests, ∀ c ∈ x.touched,
      t.tracks c ∨ ({ r with held := r.held + 1 } : LockRequest).waitingOn = some c := by
  intro x memX c touched
  rcases mem_requests_update memX with old | rfl
  · exact .inl (tracked x old c touched)
  · rw [touched_next, List.mem_append] at touched
    rcases touched with held | next
    · exact .inl (tracked r mem c held)
    · exact .inr (Option.mem_toList.mp next)

theorem live_advance (fuel : Nat) : ∀ {t : LockTable} {r : LockRequest}, t.Live → t.Tracked →
    (t.requests.map (·.name)).Nodup → r ∈ t.requests → r.ids.Pairwise (· < ·) →
    ((t.advance r fuel).1.update (t.advance r fuel).2).Live ∧
      ((t.advance r fuel).1.update (t.advance r fuel).2).Tracked := by
  induction fuel with
  | zero =>
    intro t r live tracked names mem _
    simp only [advance]
    rw [update_self names mem]
    exact ⟨live, tracked⟩
  | succ fuel ih =>
    intro t r live tracked names mem ascending
    unfold advance
    cases waiting : r.waitingOn with
    | none =>
      simp only
      rw [update_self names mem]
      exact ⟨live, tracked⟩
    | some id =>
      simp only
      by_cases handed : t.owner? id = some r.name
      · simp only [handed, if_true]
        have taken := live.take names mem waiting handed
        have touching := tracked.take mem
        split
        · rename_i done
          refine ⟨taken, fun x memX c touched => ?_⟩
          rcases touching x memX c touched with old | next
          · exact old
          · rw [done] at next
            cases next
        · rename_i c next
          -- every card the request touched lies below the one it waits on now
          have below : ∀ y ∈ r.touched, y < c := fun y touched =>
            held_lt_waiting (r := { r with held := r.held + 1 }) ascending next touched
          have outOfLine : r.name ∉ t.queueOf c := by
            intro queued
            obtain ⟨x, memX, named, waitingX⟩ := live.waiters c r.name queued
            obtain rfl := List.inj_on_of_nodup_map names memX mem named
            rw [waiting, Option.some_inj] at waitingX
            subst waitingX
            exact Nat.lt_irrefl _ (below id (mem_touched.mpr (.inr waiting)))
          have notMine : t.owner? c ≠ some r.name := by
            intro owned
            obtain ⟨x, memX, named, touched⟩ := live.owners c r.name owned
            obtain rfl := List.inj_on_of_nodup_map names memX mem named
            exact Nat.lt_irrefl _ (below c touched)
          have asked : ((t.ask r.name c).update { r with held := r.held + 1 }).Live := by
            rw [← ask_update]
            exact taken.ask (mem_update_self mem rfl) next outOfLine notMine
          have trackedAsked : ((t.ask r.name c).update { r with held := r.held + 1 }).Tracked := by
            intro x memX c' touched
            rw [← ask_update] at memX ⊢
            simp only [requests_ask] at memX
            rw [tracks_ask]
            rcases touching x memX c' touched with old | now
            · simp [old]
            · rw [next, Option.some_inj] at now
              simp [now]
          have step := ih asked trackedAsked
            (by rw [names_update]; simpa using names)
            (mem_update_self (x := r) (by simpa using mem) rfl) ascending
          obtain ⟨held, shape, -⟩ := advance_shape (t.ask r.name c)
            { r with held := r.held + 1 } fuel
          rw [advance_update, update_update (by rw [shape])] at step
          exact step
      · simp only [handed, if_false]
        rw [update_self names mem]
        exact ⟨live, tracked⟩

theorem live_start (live : t.Live) (tracked : t.Tracked) (names : (t.requests.map (·.name)).Nodup)
    {r : LockRequest} (fresh : t.find? r.name = none) (zero : r.held = 0)
    (ascending : r.ids.Pairwise (· < ·)) (single : r.pair = false → r.ids.length = 1) :
    (t.start r).Live ∧ (t.start r).Tracked := by
  have notLive : ∀ x ∈ t.requests, x.name ≠ r.name := by
    simpa [find?, List.find?_eq_none] using fresh
  have joined : r ∈ t.requests ++ [r] := List.mem_append_right _ (List.mem_singleton_self r)
  have names' : ((t.requests ++ [r]).map (·.name)).Nodup := by
    simpa [List.nodup_append, names] using fun x memX same => notLive x memX same
  unfold LockTable.start
  split
  · rename_i idle
    refine ⟨live.append single, fun x memX c touched => ?_⟩
    rcases List.mem_append.mp memX with old | new
    · exact tracked x old c touched
    · rw [List.mem_singleton.mp new] at touched
      rcases mem_touched.mp touched with held | waits
      · simp [zero] at held
      · rw [idle] at waits
        cases waits
  · rename_i first asking
    have asked : ({ t.ask r.name first with requests := t.requests ++ [r] } : LockTable).Live := by
      rw [← ask_withRequests]
      apply (live.append single).ask joined asking
      · intro queued
        obtain ⟨x, memX, named, -⟩ := live.waiters first r.name queued
        exact notLive x memX named
      · intro owned
        obtain ⟨x, memX, named, -⟩ := live.owners first r.name owned
        exact notLive x memX named
    have trackedAsked :
        ({ t.ask r.name first with requests := t.requests ++ [r] } : LockTable).Tracked := by
      intro x memX c touched
      rw [tracks_withRequests, tracks_ask]
      rcases List.mem_append.mp memX with old | new
      · simp [tracked x old c touched]
      · rw [List.mem_singleton.mp new] at touched
        rcases mem_touched.mp touched with held | waits
        · simp [zero] at held
        · rw [asking, Option.some_inj] at waits
          simp [waits]
    exact live_advance r.ids.length asked trackedAsked names' joined ascending

theorem held_eq_zero {r : LockRequest} (single : r.pair = false → r.ids.length = 1)
    (unguarded : r.guarded = false) : r.held = 0 := by
  simp only [LockRequest.guarded, LockRequest.complete, Bool.or_eq_false_iff,
    decide_eq_false_iff_not, not_le] at unguarded
  have one := single unguarded.1
  omega

theorem live_finish (sound : t.Sound) (ascending : t.Ascending) (live : t.Live)
    (tracked : t.Tracked) {r : LockRequest} (mem : r ∈ t.requests) :
    (t.finish r).Live ∧ (t.finish r).Tracked := by
  have distinct : (r.ids.take r.held).Nodup :=
    ((ascending r mem).imp fun below same => by subst same; exact Nat.lt_irrefl _ below).sublist
      (List.take_sublist _ _)
  -- a held card is not the card waited on
  have apart : ∀ c ∈ r.ids.take r.held, r.waitingOn ≠ some c := fun c held waits =>
    Nat.lt_irrefl _ (held_lt_waiting (ascending r mem) waits held)
  rw [finish_eq]
  have liveW : (t.withdrawFrom r).Live := by
    unfold withdrawFrom
    split
    · exact live.withdraw r.name _
    · exact live
  have liveG : ((t.withdrawFrom r).giveHeld r).Live := by
    unfold giveHeld
    split
    · exact liveW.foldl_giveBack _
    · exact liveW
  have requestsG : ((t.withdrawFrom r).giveHeld r).requests = t.requests := by
    unfold giveHeld withdrawFrom
    split <;> split <;> simp
  have tracksG : ∀ c, ((t.withdrawFrom r).giveHeld r).tracks c = t.tracks c :=
    tracks_leave t r
  -- what the withdrawal does to the lines and owners
  have ownerW : ∀ c, (t.withdrawFrom r).owner? c =
      if r.waitingOn = some c ∧ t.owner? c = some r.name then (t.queueOf c).head?
      else t.owner? c := by
    intro c
    unfold withdrawFrom
    split
    · rename_i id waiting
      rw [owner?_withdraw_eq, waiting]
      by_cases here : c = id
      · subst here
        simp
      · simp [here, Ne.symm here]
    · rename_i waiting
      simp [waiting]
  have lineW : ∀ c, (t.withdrawFrom r).queueOf c ⊆ t.queueOf c ∧
      (r.waitingOn = some c → r.name ∉ (t.withdrawFrom r).queueOf c) := by
    intro c
    unfold withdrawFrom
    split
    · rename_i id waiting
      rw [queueOf_withdraw]
      by_cases here : c = id
      · subst here
        rw [if_pos rfl]
        split
        · rename_i handed
          exact ⟨List.tail_subset _, fun _ queued =>
            live.notOwner c r.name (List.mem_of_mem_tail queued) handed⟩
        · exact ⟨List.erase_subset, fun _ queued =>
            ((live.once c).mem_erase_iff.mp queued).1 rfl⟩
      · rw [if_neg here]
        refine ⟨List.Subset.refl _, fun waits => ?_⟩
        rw [waiting, Option.some_inj] at waits
        exact absurd waits.symm here
    · rename_i waiting
      exact ⟨List.Subset.refl _, fun waits => by rw [waiting] at waits; cases waits⟩
  have lineG : ∀ c,
      ((t.withdrawFrom r).giveHeld r).queueOf c ⊆ (t.withdrawFrom r).queueOf c := by
    intro c
    unfold giveHeld
    split
    · rw [queueOf_foldl_giveBack _ distinct]
      split
      · exact List.tail_subset _
      · exact List.Subset.refl _
    · exact List.Subset.refl _
  have noLine : ∀ c, r.name ∉ ((t.withdrawFrom r).giveHeld r).queueOf c := by
    intro c queued
    obtain ⟨x, memX, named, waitingX⟩ := live.waiters c r.name ((lineW c).1 (lineG c queued))
    obtain rfl := List.inj_on_of_nodup_map sound.names memX mem named
    exact (lineW c).2 waitingX (lineG c queued)
  have noOwner : ∀ c, ((t.withdrawFrom r).giveHeld r).owner? c ≠ some r.name := by
    intro c owned
    -- a mutex the request held was handed on, and the one it waits on was passed on or kept
    have handedOn : ∀ c, (t.queueOf c).head? = some r.name →
        t.owner? c = some r.name → False :=
      fun c first owned => live.notOwner c r.name (List.mem_of_mem_head? first) owned
    by_cases held : r.guarded = true ∧ c ∈ r.ids.take r.held
    · rw [giveHeld, if_pos held.1, owner?_foldl_giveBack _ distinct, if_pos held.2] at owned
      have sameLine : (t.withdrawFrom r).queueOf c = t.queueOf c := by
        unfold withdrawFrom
        split
        · rename_i id waiting
          rw [queueOf_withdraw, if_neg fun (same : c = id) => apart c held.2 (same ▸ waiting)]
        · rfl
      rw [sameLine] at owned
      exact handedOn c owned (sound.owns r mem c held.2)
    · have ownerG : ((t.withdrawFrom r).giveHeld r).owner? c = (t.withdrawFrom r).owner? c := by
        unfold giveHeld
        split
        · rename_i guarded
          rw [owner?_foldl_giveBack _ distinct, if_neg fun mem => held ⟨guarded, mem⟩]
        · rfl
      rw [ownerG, ownerW] at owned
      split at owned
      · rename_i waits
        exact handedOn c owned waits.2
      · rename_i kept
        obtain ⟨x, memX, named, touched⟩ := live.owners c r.name owned
        obtain rfl := List.inj_on_of_nodup_map sound.names memX mem named
        rcases mem_touched.mp touched with holds | waits
        · by_cases guarded : x.guarded = true
          · exact held ⟨guarded, holds⟩
          · rw [held_eq_zero (live.single x memX) (by simpa using guarded)] at holds
            simp at holds
        · exact kept ⟨waits, owned⟩
  have liveL : (t.leave r).Live := by
    have removed := liveG.remove r.name noOwner noLine
    rw [requestsG] at removed
    exact removed
  have trackedL : (t.leave r).Tracked := by
    intro x memX c touched
    have old := List.mem_of_mem_filter memX
    show ((t.withdrawFrom r).giveHeld r).tracks c = true
    rw [tracksG]
    exact tracked x old c touched
  split
  · refine ⟨liveL.foldl_dropUnused _, fun x memX c touched => ?_⟩
    simp only [requests_foldl_dropUnused] at memX
    rw [tracks_foldl_dropUnused, if_neg fun unused => by
      rw [inUse_of_touched memX touched] at unused
      cases unused.2]
    exact trackedL x memX c touched
  · exact ⟨liveL, trackedL⟩

theorem live_step (sound : t.Sound) (ascending : t.Ascending) (live : t.Live)
    (tracked : t.Tracked) {s : LockStep} {t' : LockTable} (stepped : t.step s = .ok t') :
    t'.Live ∧ t'.Tracked := by
  cases s with
  | lock slot id =>
    simp only [LockTable.step] at stepped
    split at stepped
    · cases stepped
    · rename_i fresh
      cases stepped
      exact live_start live tracked sound.names (by simpa using fresh) rfl
        (List.pairwise_singleton _ _) fun _ => rfl
  | lockPair slot a b =>
    simp only [LockTable.step] at stepped
    split at stepped
    · cases stepped
    · rename_i fresh
      cases stepped
      exact live_start live tracked sound.names (by simpa using fresh) rfl
        (pairIds_ascending a b) fun pair => by cases pair
  | poll slot =>
    simp only [LockTable.step] at stepped
    split at stepped
    · cases stepped
    · rename_i r found
      cases stepped
      have mem := List.mem_of_find?_eq_some found
      exact live_advance r.ids.length live tracked sound.names mem (ascending r mem)
  | release slot =>
    simp only [LockTable.step] at stepped
    split at stepped
    · cases stepped
    · rename_i r found
      cases stepped
      exact live_finish sound ascending live tracked (List.mem_of_find?_eq_some found)

end Steps

/-! ## One entry per card -/

def Distinct (t : LockTable) : Prop := (t.entries.map (·.id)).Nodup

section Distinct

variable {t : LockTable}

theorem Distinct.modifyEntry (distinct : t.Distinct) {id : Uuid} {f : LockEntry → LockEntry}
    (keeps : ∀ e, (f e).id = e.id) : (t.modifyEntry id f).Distinct := by
  have same : (t.modifyEntry id f).entries.map (·.id) = t.entries.map (·.id) := by
    simp only [LockTable.modifyEntry, List.map_map]
    congr 1
    funext e
    by_cases here : e.id = id <;> simp [here, keeps]
  unfold Distinct
  rw [same]
  exact distinct

theorem Distinct.ask (distinct : t.Distinct) (name : String) (id : Uuid) :
    (t.ask name id).Distinct := by
  have ensured : (t.ensure id).Distinct := by
    unfold LockTable.ensure
    split
    · exact distinct
    · rename_i missing
      have fresh : ∀ e ∈ t.entries, e.id ≠ id := by
        simpa [LockTable.entry?, List.find?_eq_none] using missing
      simp only [Distinct, List.map_append, List.map_cons, List.map_nil]
      refine List.nodup_append.mpr ⟨distinct, List.nodup_singleton _, ?_⟩
      intro a stored b added same
      obtain ⟨e, mem, rfl⟩ := List.mem_map.mp stored
      exact fresh e mem (same.trans (List.mem_singleton.mp added))
  exact ensured.modifyEntry fun e => by split <;> rfl

theorem Distinct.giveBack (distinct : t.Distinct) (id : Uuid) : (t.giveBack id).Distinct :=
  distinct.modifyEntry fun _ => rfl

theorem Distinct.withdraw (distinct : t.Distinct) (name : String) (id : Uuid) :
    (t.withdraw name id).Distinct := by
  unfold LockTable.withdraw
  split
  · exact distinct.giveBack id
  · exact distinct.modifyEntry fun _ => rfl

theorem Distinct.dropUnused (distinct : t.Distinct) (id : Uuid) : (t.dropUnused id).Distinct := by
  unfold LockTable.dropUnused
  split
  · exact distinct
  · exact distinct.sublist ((List.filter_sublist).map _)

theorem Distinct.foldl_giveBack (ids : List Uuid) (distinct : t.Distinct) :
    (ids.foldl LockTable.giveBack t).Distinct := by
  induction ids generalizing t with
  | nil => exact distinct
  | cons id rest ih => exact ih (distinct.giveBack id)

theorem Distinct.foldl_dropUnused (ids : List Uuid) (distinct : t.Distinct) :
    (ids.foldl LockTable.dropUnused t).Distinct := by
  induction ids generalizing t with
  | nil => exact distinct
  | cons id rest ih => exact ih (distinct.dropUnused id)

theorem Distinct.advance (distinct : t.Distinct) (r : LockRequest) (fuel : Nat) :
    (t.advance r fuel).1.Distinct := by
  induction fuel generalizing t r with
  | zero => exact distinct
  | succ fuel ih =>
    unfold advance
    split
    · exact distinct
    · split
      · dsimp only
        split
        · exact distinct
        · exact ih (distinct.ask _ _) _
      · exact distinct

theorem Distinct.update (distinct : t.Distinct) (r : LockRequest) : (t.update r).Distinct :=
  distinct

theorem Distinct.step (distinct : t.Distinct) {s : LockStep} {t' : LockTable}
    (stepped : t.step s = .ok t') : t'.Distinct := by
  have start : ∀ r, (t.start r).Distinct := by
    intro r
    unfold LockTable.start
    split
    · exact distinct
    · rename_i first _
      have asked :
          ({ t.ask r.name first with requests := t.requests ++ [r] } : LockTable).Distinct :=
        distinct.ask r.name first
      exact (asked.advance _ _).update _
  cases s with
  | lock slot id =>
    simp only [LockTable.step] at stepped
    split at stepped
    · cases stepped
    · cases stepped
      exact start _
  | lockPair slot a b =>
    simp only [LockTable.step] at stepped
    split at stepped
    · cases stepped
    · cases stepped
      exact start _
  | poll slot =>
    simp only [LockTable.step] at stepped
    split at stepped
    · cases stepped
    · cases stepped
      exact (distinct.advance _ _).update _
  | release slot =>
    simp only [LockTable.step] at stepped
    split at stepped
    · cases stepped
    · rename_i r _
      cases stepped
      have left : (t.leave r).Distinct := by
        show ((t.withdrawFrom r).giveHeld r).Distinct
        have withdrawn : (t.withdrawFrom r).Distinct := by
          unfold withdrawFrom
          split
          · exact distinct.withdraw _ _
          · exact distinct
        unfold giveHeld
        split
        · exact withdrawn.foldl_giveBack _
        · exact withdrawn
      rw [finish_eq]
      split
      · exact left.foldl_dropUnused _
      · exact left

end Distinct

/-! ## Entries of a run -/

/-- Whether a step releases a single lock that does not hold its card yet: it has no guard, and
the entries of its card are left as they are. -/
def releasesWaitingLock (t : LockTable) : LockStep → Bool
  | .release slot =>
    match t.find? slot with
    | some r => !r.guarded
    | none => false
  | _ => false

def Exact (t : LockTable) : Prop := ∀ id, t.tracks id = true → t.inUse id = true

section Exact

variable {t : LockTable}

theorem tracks_advance (t : LockTable) (r : LockRequest) (fuel : Nat) :
    r.touched ⊆ (t.advance r fuel).2.touched ∧
      ∀ id, (t.advance r fuel).1.tracks id = true →
        t.tracks id = true ∨ id ∈ (t.advance r fuel).2.touched := by
  induction fuel generalizing t r with
  | zero => exact ⟨List.Subset.refl _, fun _ tracked => .inl tracked⟩
  | succ fuel ih =>
    unfold advance
    cases waiting : r.waitingOn with
    | none => exact ⟨List.Subset.refl _, fun _ tracked => .inl tracked⟩
    | some id =>
      dsimp only
      by_cases handed : t.owner? id = some r.name
      · simp only [handed, if_true]
        have grows := touched_next r
        split
        · rename_i done
          refine ⟨?_, fun _ tracked => .inl tracked⟩
          rw [grows]
          exact List.subset_append_left _ _
        · rename_i c next
          obtain ⟨sub, asked⟩ := ih (t.ask r.name c) { r with held := r.held + 1 }
          refine ⟨fun y touched =>
            sub (by rw [grows]; exact List.mem_append_left _ touched), ?_⟩
          intro y tracked
          rcases asked y tracked with old | now
          · rw [tracks_ask] at old
            by_cases here : y = c
            · subst here
              exact .inr (sub (by rw [grows, next]; simp))
            · exact .inl (by simpa [here] using old)
          · exact .inr now
      · simp only [handed, if_false]
        exact ⟨List.Subset.refl _, fun _ tracked => .inl tracked⟩

@[simp] theorem inUse_foldl_dropUnused (ids : List Uuid) (id : Uuid) :
    (ids.foldl LockTable.dropUnused t).inUse id = t.inUse id := by
  simp [inUse]

theorem inUse_of_tracks (exact : t.Exact) {id : Uuid} (tracked : t.tracks id = true) :
    ∃ x ∈ t.requests, id ∈ x.touched := by
  simpa [inUse] using exact id tracked

theorem Exact.advance (exact : t.Exact) (names : (t.requests.map (·.name)).Nodup)
    {r : LockRequest} (mem : r ∈ t.requests) (fuel : Nat) :
    ((t.advance r fuel).1.update (t.advance r fuel).2).Exact := by
  obtain ⟨sub, asked⟩ := tracks_advance t r fuel
  obtain ⟨held, shape, requests⟩ := advance_shape t r fuel
  have advanced :
      (t.advance r fuel).2 ∈ ((t.advance r fuel).1.update (t.advance r fuel).2).requests :=
    mem_update_self (x := r) (by rw [requests]; exact mem) (by rw [shape])
  intro id tracked
  rw [tracks_update] at tracked
  rcases asked id tracked with old | now
  · obtain ⟨x, memX, touched⟩ := inUse_of_tracks exact old
    by_cases same : x.name = r.name
    · obtain rfl := List.inj_on_of_nodup_map names memX mem same
      exact inUse_of_touched advanced (sub touched)
    · exact inUse_of_touched
        (mem_update_of_ne (by rw [requests]; exact memX) (by rw [shape]; exact same)) touched
  · exact inUse_of_touched advanced now

theorem Exact.start (exact : t.Exact) (names : (t.requests.map (·.name)).Nodup)
    {r : LockRequest} (fresh : t.find? r.name = none) : (t.start r).Exact := by
  have notLive : ∀ x ∈ t.requests, x.name ≠ r.name := by
    simpa [find?, List.find?_eq_none] using fresh
  have joined : r ∈ t.requests ++ [r] := List.mem_append_right _ (List.mem_singleton_self r)
  unfold LockTable.start
  split
  · intro id tracked
    obtain ⟨x, memX, touched⟩ := inUse_of_tracks exact tracked
    exact inUse_of_touched (List.mem_append_left _ memX) touched
  · rename_i first asking
    -- the table right after the first card is asked for is exact too
    have asked : ({ t.ask r.name first with requests := t.requests ++ [r] } : LockTable).Exact := by
      intro id tracked
      rw [tracks_withRequests, tracks_ask] at tracked
      by_cases here : id = first
      · subst here
        exact inUse_of_touched joined (mem_touched.mpr (.inr asking))
      · obtain ⟨x, memX, touched⟩ := inUse_of_tracks exact (by simpa [here] using tracked)
        exact inUse_of_touched (List.mem_append_left _ memX) touched
    exact asked.advance
      (by simpa [List.nodup_append, names] using fun x memX same => notLive x memX same)
      joined _

theorem Exact.finish (exact : t.Exact) (names : (t.requests.map (·.name)).Nodup)
    {r : LockRequest} (mem : r ∈ t.requests) (guarded : r.guarded = true) :
    (t.finish r).Exact := by
  rw [finish_eq, if_pos guarded]
  intro id tracked
  rw [tracks_foldl_dropUnused] at tracked
  rw [inUse_foldl_dropUnused]
  by_cases dropped : id ∈ r.ids ∧ (t.leave r).inUse id = false
  · rw [if_pos dropped] at tracked
    cases tracked
  · rw [if_neg dropped, tracks_leave] at tracked
    obtain ⟨x, memX, touched⟩ := inUse_of_tracks exact tracked
    by_cases same : x.name = r.name
    · obtain rfl := List.inj_on_of_nodup_map names memX mem same
      simpa using fun mine => dropped ⟨List.take_subset _ _ touched, mine⟩
    · exact inUse_of_touched (List.mem_filter.mpr ⟨memX, by simpa using same⟩) touched

theorem Exact.step (exact : t.Exact) (sound : t.Sound) {s : LockStep} {t' : LockTable}
    (stepped : t.step s = .ok t') (keeps : t.releasesWaitingLock s = false) : t'.Exact := by
  cases s with
  | lock slot id =>
    simp only [LockTable.step] at stepped
    split at stepped
    · cases stepped
    · rename_i fresh
      cases stepped
      exact exact.start sound.names (by simpa using fresh)
  | lockPair slot a b =>
    simp only [LockTable.step] at stepped
    split at stepped
    · cases stepped
    · rename_i fresh
      cases stepped
      exact exact.start sound.names (by simpa using fresh)
  | poll slot =>
    simp only [LockTable.step] at stepped
    split at stepped
    · cases stepped
    · rename_i r found
      cases stepped
      exact exact.advance sound.names (List.mem_of_find?_eq_some found) _
  | release slot =>
    simp only [LockTable.step] at stepped
    split at stepped
    · cases stepped
    · rename_i r found
      cases stepped
      have guarded : r.guarded = true := by
        simpa [releasesWaitingLock, found] using keeps
      exact exact.finish sound.names (List.mem_of_find?_eq_some found) guarded

end Exact

/-! ## Runs from the empty table -/

theorem ofSteps_append (steps : List LockStep) (s : LockStep) :
    ofSteps (steps ++ [s]) = match (ofSteps steps).step s with
      | .ok t' => t'
      | .error _ => ofSteps steps := by
  unfold ofSteps
  rw [List.foldl_append]
  rfl

theorem coherent_ofSteps (steps : List LockStep) :
    (ofSteps steps).Sound ∧ (ofSteps steps).Ascending ∧ (ofSteps steps).Live ∧
      (ofSteps steps).Tracked ∧ (ofSteps steps).Distinct := by
  have empty : ({} : LockTable).Sound ∧ ({} : LockTable).Ascending ∧ ({} : LockTable).Live ∧
      ({} : LockTable).Tracked ∧ ({} : LockTable).Distinct :=
    ⟨sound_empty, (fun _ mem => nomatch mem), live_empty, tracked_empty, List.nodup_nil⟩
  have keeps : ∀ (t : LockTable) s t',
      t.Sound ∧ t.Ascending ∧ t.Live ∧ t.Tracked ∧ t.Distinct → t.step s = .ok t' →
        t'.Sound ∧ t'.Ascending ∧ t'.Live ∧ t'.Tracked ∧ t'.Distinct := by
    intro t s t' holds stepped
    obtain ⟨sound, ascending, live, tracked, distinct⟩ := holds
    obtain ⟨live', tracked'⟩ := live_step sound ascending live tracked stepped
    exact ⟨sound.step stepped, ascending_step ascending stepped, live', tracked',
      distinct.step stepped⟩
  exact ofSteps_induction _ empty keeps steps

theorem Live.idle {t : LockTable} (live : t.Live) {id : Uuid} (unused : t.inUse id = false) :
    t.owner? id = none ∧ t.queueOf id = [] := by
  constructor
  · cases owned : t.owner? id with
    | none => rfl
    | some n =>
      obtain ⟨x, memX, -, touched⟩ := live.owners id n owned
      rw [inUse_of_touched memX touched] at unused
      cases unused
  · cases line : t.queueOf id with
    | nil => rfl
    | cons n rest =>
      obtain ⟨x, memX, -, waiting⟩ := live.waiters id n (by simp [line])
      rw [inUse_of_touched memX (mem_touched.mpr (.inr waiting))] at unused
      cases unused

theorem exact_ofSteps (steps : List LockStep)
    (clean : ∀ i (h : i < steps.length),
      (ofSteps (steps.take i)).releasesWaitingLock steps[i] = false) :
    (ofSteps steps).Exact := by
  induction steps using List.reverseRecOn with
  | nil => exact fun id tracked => by simp [ofSteps, tracks, entry?] at tracked
  | append_singleton steps s ih =>
    have before := ih fun i h => by
      have earlier := clean i (by simp; omega)
      rwa [List.take_append_of_le_length (by omega), List.getElem_append_left h] at earlier
    have last := clean steps.length (by simp)
    rw [List.take_left' rfl, List.getElem_concat_length rfl] at last
    rw [ofSteps_append]
    split
    · rename_i t' stepped
      exact before.step (coherent_ofSteps steps).1 stepped last
    · exact before

theorem tracks_of_mem {t : LockTable} {e : LockEntry} (mem : e ∈ t.entries) :
    t.tracks e.id = true := by
  simp only [tracks, entry?]
  exact List.find?_isSome.mpr ⟨e, mem, by simp⟩

/-- The entries of the lock table live as long as they are needed, except after one slip.
Whatever the steps: the table has one entry per card; every card that a live request holds or
waits on has its entry; and an entry that no live request uses has no owner and nobody in line.
If no step released a single lock while it waited, every entry is in use, so once no request is
left the table has no entry at all. -/
theorem ofSteps_entries_in_use_or_idle (steps : List LockStep) :
    (ofSteps steps).Distinct ∧
    (∀ r ∈ (ofSteps steps).requests, ∀ id ∈ r.touched, (ofSteps steps).tracks id = true) ∧
    (∀ id, (ofSteps steps).tracks id = true → (ofSteps steps).inUse id = false →
      (ofSteps steps).owner? id = none ∧ (ofSteps steps).queueOf id = []) ∧
    ((∀ i (h : i < steps.length),
        (ofSteps (steps.take i)).releasesWaitingLock steps[i] = false) →
      (∀ id, (ofSteps steps).tracks id = true → (ofSteps steps).inUse id = true) ∧
      ((ofSteps steps).requests = [] → (ofSteps steps).tracked = 0)) := by
  obtain ⟨-, -, live, tracked, distinct⟩ := coherent_ofSteps steps
  refine ⟨distinct, tracked, fun id _ unused => live.idle unused, fun clean => ?_⟩
  have exact := exact_ofSteps steps clean
  refine ⟨exact, fun gone => ?_⟩
  -- with no request left, no card is in use, so no entry is left
  have noEntry : (ofSteps steps).entries = [] := by
    refine List.eq_nil_iff_forall_not_mem.mpr fun e mem => ?_
    have used := exact e.id (tracks_of_mem mem)
    simp [inUse, gone] at used
  simp [LockTable.tracked, noEntry]

/-- Two requests take one card in turn, the second waiting for the first; then a pair takes it
with another card. Nothing is released while it waits, and the table ends empty. -/
theorem entries_gone_after_clean_run :
    (∀ i (h : i < 5), (ofSteps ([.lock "a" (Uuid.ofNat 1), .lock "b" (Uuid.ofNat 1),
        .release "a", .poll "b", .release "b"].take i)).releasesWaitingLock
        [LockStep.lock "a" (Uuid.ofNat 1), .lock "b" (Uuid.ofNat 1), .release "a", .poll "b",
          .release "b"][i] = false) ∧
      (ofSteps [.lock "a" (Uuid.ofNat 1), .lock "b" (Uuid.ofNat 1), .release "a", .poll "b",
        .release "b"]).tracked = 0 :=
  have clean : ∀ i (h : i < 5), (ofSteps ([.lock "a" (Uuid.ofNat 1), .lock "b" (Uuid.ofNat 1),
      .release "a", .poll "b", .release "b"].take i)).releasesWaitingLock
      [LockStep.lock "a" (Uuid.ofNat 1), .lock "b" (Uuid.ofNat 1), .release "a", .poll "b",
        .release "b"][i] = false := by decide
  ⟨clean, ((ofSteps_entries_in_use_or_idle [.lock "a" (Uuid.ofNat 1), .lock "b" (Uuid.ofNat 1),
    .release "a", .poll "b", .release "b"]).2.2.2 clean).2 (by decide)⟩

end LockTable

end CardLedger
