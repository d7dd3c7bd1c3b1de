import Mathlib
import CardLedger.Proofs.Locks

/-!
# Lock order and deadlock freedom

`LockTable.ofSteps` is the table that a sequence of steps leaves, from the empty table; a step
that names its request wrongly is refused and changes nothing. Every property that the empty
table has and every step keeps holds of it (`ofSteps_induction`).

Whatever the steps, the table keeps three promises. Two live requests never hold one card
(`Sound.exclusive`). Every request asks for its cards in strictly ascending order
(`ascending_step`), so a pair that names one card twice asks for it once, and a request that
waits holds only cards below the one it waits on (`held_lt_waiting`). So when a request waits on
a card that another one holds, the card the other waits on, if any, is higher still: the
waits-for relation rises along its edges (`waitRank_lt`), it has no cycle, and no group of
requests waits on each other forever (`ofSteps_exclusive_ascending_acyclic`).
-/

namespace CardLedger

namespace LockTable

/-! ## Runs from the empty table -/

def ofSteps (steps : List LockStep) : LockTable :=
  steps.foldl (fun t s => match t.step s with
    | .ok t' => t'
    | .error _ => t) {}

theorem ofSteps_induction (P : LockTable → Prop) (empty : P {})
    (step : ∀ t s t', P t → t.step s = .ok t' → P t') (steps : List LockStep) :
    P (ofSteps steps) := by
  suffices keeps : ∀ t, P t → P (steps.foldl (fun t s => match t.step s with
      | .ok t' => t'
      | .error _ => t) t) from keeps {} empty
  induction steps with
  | nil => exact fun _ holds => holds
  | cons s rest induction =>
    intro t holds
    apply induction
    dsimp only
    split
    · rename_i t' stepped
      exact step t s t' holds stepped
    · exact holds

theorem sound_empty : ({} : LockTable).Sound where
  names := List.nodup_nil
  owns := fun _ mem => nomatch mem

theorem sound_ofSteps (steps : List LockStep) : (ofSteps steps).Sound :=
  ofSteps_induction Sound sound_empty (fun _ _ _ sound stepped => sound.step stepped) steps

/-! ## Cards in ascending order -/

def Ascending (t : LockTable) : Prop := ∀ r ∈ t.requests, r.ids.Pairwise (· < ·)

theorem pairIds_ascending (a b : Uuid) : (pairIds a b).Pairwise (· < ·) := by
  unfold pairIds
  split
  · exact List.pairwise_singleton _ _
  · rename_i distinct
    have apart : a.bits ≠ b.bits := fun same => distinct (Uuid.ext_bits same)
    split
    · rename_i below
      exact List.pairwise_pair.mpr (show a.bits < b.bits by omega)
    · rename_i above
      exact List.pairwise_pair.mpr (show b.bits < a.bits by omega)

theorem mem_requests_update {t : LockTable} {r r' : LockRequest}
    (mem : r' ∈ (t.update r).requests) : r' ∈ t.requests ∨ r' = r := by
  simp only [requests_update, List.mem_map] at mem
  obtain ⟨x, old, rfl⟩ := mem
  by_cases named : x.name = r.name
  · exact .inr (by simp [named])
  · exact .inl (by simpa [named] using old)

theorem mem_requests_start {t : LockTable} {r r' : LockRequest}
    (mem : r' ∈ (t.start r).requests) : r' ∈ t.requests ∨ ∃ held, r' = { r with held } := by
  unfold LockTable.start at mem
  split at mem
  · rcases List.mem_append.mp mem with old | new
    · exact .inl old
    · exact .inr ⟨r.held, List.mem_singleton.mp new⟩
  · rename_i first _
    obtain ⟨held, advanced, requests⟩ := advance_shape
      ({ t.ask r.name first with requests := t.requests ++ [r] } : LockTable) r r.ids.length
    rcases mem_requests_update mem with kept | updated
    · rw [requests] at kept
      rcases List.mem_append.mp kept with old | new
      · exact .inl old
      · exact .inr ⟨r.held, List.mem_singleton.mp new⟩
    · exact .inr ⟨held, updated.trans advanced⟩

theorem ascending_step {t t' : LockTable} (ascending : t.Ascending) {s : LockStep}
    (stepped : t.step s = .ok t') : t'.Ascending := by
  intro r' mem
  cases s with
  | lock slot id =>
    simp only [LockTable.step] at stepped
    split at stepped
    · cases stepped
    · cases stepped
      rcases mem_requests_start mem with old | ⟨held, rfl⟩
      · exact ascending r' old
      · exact List.pairwise_singleton _ _
  | lockPair slot a b =>
    simp only [LockTable.step] at stepped
    split at stepped
    · cases stepped
    · cases stepped
      rcases mem_requests_start mem with old | ⟨held, rfl⟩
      · exact ascending r' old
      · exact pairIds_ascending a b
  | poll slot =>
    simp only [LockTable.step] at stepped
    split at stepped
    · cases stepped
    · rename_i r found
      cases stepped
      obtain ⟨held, advanced, requests⟩ := advance_shape t r r.ids.length
      rcases mem_requests_update mem with kept | updated
      · exact ascending r' (requests ▸ kept)
      · rw [updated, advanced]
        exact ascending r (List.mem_of_find?_eq_some found)
  | release slot =>
    simp only [LockTable.step] at stepped
    split at stepped
    · cases stepped
    · cases stepped
      rw [requests_finish] at mem
      exact ascending r' (List.mem_of_mem_filter mem)

theorem ascending_ofSteps (steps : List LockStep) : (ofSteps steps).Ascending :=
  ofSteps_induction Ascending (fun _ mem => nomatch mem)
    (fun _ _ _ ascending stepped => ascending_step ascending stepped) steps

theorem held_lt_waiting {r : LockRequest} (ascending : r.ids.Pairwise (· < ·)) {w : Uuid}
    (waiting : r.waitingOn = some w) {id : Uuid} (held : id ∈ r.ids.take r.held) : id < w := by
  have later : w ∈ r.ids.drop r.held := by
    have first : (r.ids.drop r.held)[0]? = some w := by
      simpa [List.getElem?_drop, LockRequest.waitingOn] using waiting
    exact List.mem_of_getElem? first
  rw [← List.take_append_drop r.held r.ids, List.pairwise_append] at ascending
  exact ascending.2.2 id held w later

/-! ## Waiting on each other -/

def WaitsFor (t : LockTable) (a b : LockRequest) : Prop :=
  a ∈ t.requests ∧ b ∈ t.requests ∧ ∃ id, a.waitingOn = some id ∧ id ∈ b.ids.take b.held

def waitRank (r : LockRequest) : Nat :=
  match r.waitingOn with
  | some id => id.bits
  | none => Nat.pow 2 128

theorem waitRank_lt {t : LockTable} (ascending : t.Ascending) {a b : LockRequest}
    (waits : t.WaitsFor a b) : waitRank a < waitRank b := by
  obtain ⟨-, memB, id, waiting, held⟩ := waits
  rw [waitRank, waiting]
  cases blocked : b.waitingOn with
  | none => simpa [waitRank, blocked] using id.bits_lt
  | some w =>
    have below : id.bits < w.bits := held_lt_waiting (ascending b memB) blocked held
    simpa [waitRank, blocked] using below

theorem waitsFor_acyclic {t : LockTable} (ascending : t.Ascending) (r : LockRequest) :
    ¬ Relation.TransGen t.WaitsFor r r := by
  have rises : ∀ a b, Relation.TransGen t.WaitsFor a b → waitRank a < waitRank b := by
    intro a b chain
    induction chain with
    | single waits => exact waitRank_lt ascending waits
    | tail _ waits rises => exact rises.trans (waitRank_lt ascending waits)
  exact fun cycle => lt_irrefl _ (rises r r cycle)

/-- Whatever steps the tasks take: two live requests never hold one card; every request asks
for its cards in strictly ascending order (a pair naming one card twice asks once), so a waiting
request holds only cards below the one it waits on; and no chain of requests waiting on each
other's cards closes into a cycle. -/
theorem ofSteps_exclusive_ascending_acyclic (steps : List LockStep) :
    (∀ a ∈ (ofSteps steps).requests, ∀ b ∈ (ofSteps steps).requests, a.name ≠ b.name →
      ∀ id ∈ a.ids.take a.held, id ∉ b.ids.take b.held) ∧
    (∀ r ∈ (ofSteps steps).requests, r.ids.Pairwise (· < ·) ∧
      ∀ w, r.waitingOn = some w → ∀ id ∈ r.ids.take r.held, id < w) ∧
    ∀ r, ¬ Relation.TransGen (ofSteps steps).WaitsFor r r := by
  have sound := sound_ofSteps steps
  have ascending := ascending_ofSteps steps
  refine ⟨fun a memA b memB distinct id held => sound.exclusive memA memB distinct held,
    fun r mem => ⟨ascending r mem, fun w waiting id held =>
      held_lt_waiting (ascending r mem) waiting held⟩,
    waitsFor_acyclic ascending⟩

end LockTable

end CardLedger
