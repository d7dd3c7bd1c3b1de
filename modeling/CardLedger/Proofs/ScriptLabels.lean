import Mathlib
import CardLedger.Proofs.RunnerSteps

/-!
# Script runs keep labels and store in step

A script runner names cards by labels. Over every run of a script from an empty store that only
the runner writes, the runner stays `ScriptRunner.Labelled`: distinct labels name distinct cards,
every label names a stored card and every stored card has a label; every stored row opens under
the engine's key and belongs to a registered owner. Each command keeps this
(`ScriptRunner.Labelled.step`, read off `ScriptRunner.stepped_run`), and a command that fails
leaves the labels and the store as they were.
-/

namespace CardLedger

theorem Sealer.Drawn.opens {sealer : Sealer} {number : CardNumber} {blob : Blob}
    (drawn : sealer.Drawn number blob) {r : Record} (holds : r.number = blob) :
    ∃ c, r.openWith sealer = .ok c := by
  obtain ⟨e, rfl, sealed⟩ := drawn
  have twelve : e.drawnNonce.length = Sealer.nonceLength := by simp [Entropy.drawnNonce]
  exact ⟨_, Record.openWith_of_opens (holds ▸ sealer.openBlob_sealWithNonce twelve sealed)
    (Entropy.parse_candidate e)⟩

namespace ScriptRunner

/-- What holds of a runner after every command of a script run from an empty store. -/
structure Labelled (r : ScriptRunner Store) : Prop where
  consistent : r.engine.store.Consistent
  sealer : r.engine.store.sealer = r.engine.sealer
  opens : ∀ (id : CardId) (rec : Record), r.engine.store.cards[id]? = some rec →
    ∃ c, rec.openWith r.engine.sealer = .ok c
  owned : ∀ (id : CardId) (rec : Record), r.engine.store.cards[id]? = some rec →
    ∃ l ∈ r.owners, rec.owner = ownerIdOf l
  ownersApart : r.OwnersApart
  labelsApart : (r.cards.map (·.1)).Nodup
  idsApart : (r.cards.map (·.2)).Nodup
  named : ∀ id : CardId, (∃ label, (label, id) ∈ r.cards) ↔ (r.engine.store.cards[id]?).isSome

theorem labelled_start (sealer : Sealer) (config : Config) (entropy : Entropy) :
    ({ engine := { store := Store.empty sealer, sealer, config, entropy } } :
      ScriptRunner Store).Labelled where
  consistent := Store.consistent_empty sealer
  sealer := rfl
  opens := by simp [Store.empty]
  owned := by simp [Store.empty]
  ownersApart := List.nodup_nil
  labelsApart := List.nodup_nil
  idsApart := List.nodup_nil
  named := by simp [Store.empty]

namespace Labelled

variable {r r' : ScriptRunner Store}

section

variable (labelled : r.Labelled) (sealer : r'.engine.sealer = r.engine.sealer)
  (grown : r.owners ⊆ r'.owners) (apart : r'.OwnersApart)
include labelled sealer grown apart

theorem of_kept (cards : r'.cards = r.cards) (store : r'.engine.store = r.engine.store) :
    r'.Labelled where
  consistent := store ▸ labelled.consistent
  sealer := by rw [store, sealer]; exact labelled.sealer
  opens := by
    intro id rec row
    rw [store] at row
    rw [sealer]
    exact labelled.opens id rec row
  owned := by
    intro id rec row
    rw [store] at row
    obtain ⟨l, registered, owner⟩ := labelled.owned id rec row
    exact ⟨l, grown registered, owner⟩
  ownersApart := apart
  labelsApart := cards ▸ labelled.labelsApart
  idsApart := cards ▸ labelled.idsApart
  named := by rw [cards, store]; exact labelled.named

theorem of_retouched (consistent : r'.engine.store.Consistent) (cards : r'.cards = r.cards)
    (rows : r.engine.store.Retouched r'.engine.store) : r'.Labelled where
  consistent := consistent
  sealer := by rw [rows.1, sealer]; exact labelled.sealer
  opens := by
    intro id rec' row'
    obtain ⟨rec, row, number, -⟩ := rows.row row'
    obtain ⟨c, opened⟩ := labelled.opens id rec row
    rw [sealer]
    exact Record.openWith_ok_of_number opened number
  owned := by
    intro id rec' row'
    obtain ⟨rec, row, -, owner⟩ := rows.row row'
    obtain ⟨l, registered, owned⟩ := labelled.owned id rec row
    exact ⟨l, grown registered, owner.trans owned⟩
  ownersApart := apart
  labelsApart := cards ▸ labelled.labelsApart
  idsApart := cards ▸ labelled.idsApart
  named := by
    intro id
    rw [cards, rows.isSome_eq]
    exact labelled.named id

theorem of_issued (consistent : r'.engine.store.Consistent) {label : String} {id : CardId}
    {owner : String} {number : CardNumber} {expiry : Expiry} {opening : Balance} {blob : Blob}
    (fresh : label ∉ r.cards.map (·.1)) (absent : r.engine.store.cards[id]? = none)
    (registered : owner ∈ r'.owners) (drawn : r.engine.sealer.Drawn number blob)
    (cards : r'.cards = r.cards ++ [(label, id)])
    (rows : r'.engine.store.cards = r.engine.store.cards.insert id
      (Record.ofCard (Card.issue id (ownerIdOf owner) number expiry opening) blob))
    (sameKey : r'.engine.store.sealer = r.engine.store.sealer) : r'.Labelled where
  consistent := consistent
  sealer := by rw [sameKey, sealer]; exact labelled.sealer
  opens := by
    intro id' rec row
    rw [rows, Std.HashMap.getElem?_insert] at row
    rw [sealer]
    split at row
    · cases row
      exact drawn.opens rfl
    · exact labelled.opens id' rec row
  owned := by
    intro id' rec row
    rw [rows, Std.HashMap.getElem?_insert] at row
    split at row
    · cases row
      exact ⟨owner, registered, rfl⟩
    · obtain ⟨l, registered, owned⟩ := labelled.owned id' rec row
      exact ⟨l, grown registered, owned⟩
  ownersApart := apart
  labelsApart := by
    rw [cards, List.map_append]
    exact labelled.labelsApart.append (List.nodup_singleton label)
      (List.disjoint_singleton.mpr fresh)
  idsApart := by
    -- the new identifier held no row, so no label was bound to it
    have unbound : id ∉ r.cards.map (·.2) := by
      intro bound
      obtain ⟨⟨l, i⟩, member, rfl⟩ := List.mem_map.mp bound
      have stored := (labelled.named i).mp ⟨l, member⟩
      simp [absent] at stored
    rw [cards, List.map_append]
    exact labelled.idsApart.append (List.nodup_singleton id)
      (List.disjoint_singleton.mpr unbound)
  named := by
    intro id'
    rw [cards, rows, Std.HashMap.getElem?_insert]
    by_cases here : id = id'
    · subst here
      simp
    · simp only [List.mem_append, List.mem_singleton, Prod.mk.injEq, beq_iff_eq, here,
        if_false, ← labelled.named id']
      constructor
      · rintro ⟨l, bound | ⟨-, same⟩⟩
        · exact ⟨l, bound⟩
        · exact absurd same.symm here
      · rintro ⟨l, bound⟩
        exact ⟨l, .inl bound⟩

theorem of_deleted (consistent : r'.engine.store.Consistent) {id : CardId}
    (cards : r'.cards = r.cards.filter (·.2 != id))
    (rows : r'.engine.store.cards = r.engine.store.cards.erase id)
    (sameKey : r'.engine.store.sealer = r.engine.store.sealer) : r'.Labelled where
  consistent := consistent
  sealer := by rw [sameKey, sealer]; exact labelled.sealer
  opens := by
    intro id' rec row
    rw [rows, Std.HashMap.getElem?_erase] at row
    rw [sealer]
    split at row
    · cases row
    · exact labelled.opens id' rec row
  owned := by
    intro id' rec row
    rw [rows, Std.HashMap.getElem?_erase] at row
    split at row
    · cases row
    · obtain ⟨l, registered, owned⟩ := labelled.owned id' rec row
      exact ⟨l, grown registered, owned⟩
  ownersApart := apart
  labelsApart := cards ▸ labelled.labelsApart.sublist (List.filter_sublist.map _)
  idsApart := cards ▸ labelled.idsApart.sublist (List.filter_sublist.map _)
  named := by
    intro id'
    rw [cards, rows, Std.HashMap.getElem?_erase]
    by_cases here : id = id'
    · subst here
      simp
    · simp only [List.mem_filter, bne_iff_ne, ne_eq, beq_iff_eq, here, if_false,
        ← labelled.named id']
      constructor
      · rintro ⟨l, bound, -⟩
        exact ⟨l, bound⟩
      · rintro ⟨l, bound⟩
        exact ⟨l, bound, Ne.symm here⟩

end

theorem step (labelled : r.Labelled) {o : Outcome Unit} (stepped : Stepped r r' o) :
    r'.Labelled := by
  obtain ⟨sealer, grown, apart, consistent, -, effect⟩ := stepped
  replace grown : r.owners ⊆ r'.owners := grown.subset
  replace apart := apart labelled.ownersApart
  cases effect with
  | kept cards store => exact labelled.of_kept sealer grown apart cards store
  | retouched cards rows =>
    exact labelled.of_retouched sealer grown apart (consistent labelled.consistent) cards rows
  | issued fresh absent registered drawn cards rows sameKey =>
    exact labelled.of_issued sealer grown apart (consistent labelled.consistent) fresh absent
      registered drawn cards rows sameKey
  | deleted _ cards rows sameKey =>
    exact labelled.of_deleted sealer grown apart (consistent labelled.consistent) cards rows
      sameKey

end Labelled

theorem Labelled.runAll {r : ScriptRunner Store} (labelled : r.Labelled)
    (script : List (Outcome Command)) : (r.runAll script).2.Labelled := by
  induction script generalizing r with
  | nil => exact labelled
  | cons record rest ih =>
    cases record with
    | error e => exact ih labelled
    | ok c => exact ih (labelled.step (stepped_run r c labelled.consistent.keyed))

end ScriptRunner

end CardLedger
