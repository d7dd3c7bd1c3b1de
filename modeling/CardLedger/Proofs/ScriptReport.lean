import Mathlib
import CardLedger.Proofs.ScriptLabels

/-!
# The card report of a script run

After every command of a script run from an empty store, the report of a labelled runner
(`ScriptRunner.Labelled.report_shows`) lists each stored card exactly once, in the order of the
labels (`String` order, the order of code points, which is the byte order of UTF-8 text). A line
holds the card's label, its owner's label, twelve masked digits and the last four digits of its
number, its expiry as `MM/YY`, its status by name and its balance with two decimals
(`CardNumber.masked_eq`, `Expiry.toText_eq`, `Balance.toText_eq`). The owner's label is the
registered label that stands for the card's owner identifier; registered labels stand for
distinct identifiers (`ScriptRunner.OwnersApart`).

Main statement: `runAll_keeps_labels_in_step`.
-/

namespace CardLedger

/-! ## Text of a report line -/

theorem Expiry.twoDigits_eq {n : Nat} (small : n < 100) :
    twoDigits n = String.ofList [Nat.digitChar (n / 10), Nat.digitChar (n % 10)] := by
  unfold twoDigits
  split
  · rename_i one
    rw [Nat.toString_eq_repr, Nat.repr_of_lt one, Nat.div_eq_of_lt one, Nat.mod_eq_of_lt one]
    apply String.toList_inj.mp
    simp
  · rw [Nat.toString_eq_repr, Nat.repr_of_ge (by omega), Nat.repr_of_lt (by omega : n / 10 < 10)]
    apply String.toList_inj.mp
    simp

theorem Expiry.toText_eq (e : Expiry) :
    e.toText = String.ofList [Nat.digitChar (e.month / 10), Nat.digitChar (e.month % 10), '/',
      Nat.digitChar (e.year / 10), Nat.digitChar (e.year % 10)] := by
  rw [toText, twoDigits_eq (by have := e.month_le; omega), twoDigits_eq e.year_lt]
  apply String.toList_inj.mp
  simp

theorem Balance.toText_eq (b : Balance) :
    b.toText = toString (b.cents / 100) ++ "." ++
      String.ofList [Nat.digitChar (b.cents % 100 / 10), Nat.digitChar (b.cents % 10)] := by
  have units : b.cents % 100 % 10 = b.cents % 10 := Nat.mod_mod_of_dvd _ (by norm_num)
  rw [toText, centsText, String.append_assoc]
  change _ ++ Expiry.twoDigits (b.cents % 100) = _
  rw [Expiry.twoDigits_eq (Nat.mod_lt _ (by norm_num)), units]

theorem CardNumber.masked_eq {n : CardNumber} (digits : n.text.toList.all Char.isDigit = true) :
    n.masked = "**** **** **** " ++ String.ofList (n.text.toList.drop (n.text.length - 4)) := by
  unfold masked maskText
  rw [List.filter_eq_self.mpr (by simpa using digits)]
  simp only [String.length_toList]

theorem Record.openWith_digits {sealer : Sealer} {r : Record} {c : Card}
    (opened : r.openWith sealer = .ok c) : c.number.text.toList.all Char.isDigit = true := by
  unfold Record.openWith at opened
  cases text : sealer.openBlob r.number with
  | error e => simp [text, bind, Except.bind] at opened
  | ok t =>
    cases parsed : CardNumber.parse t with
    | error e => simp [text, parsed, bind, Except.bind] at opened
    | ok n =>
      simp only [text, parsed, bind, Except.bind, Except.ok.injEq] at opened
      subst opened
      obtain ⟨shape, -, same⟩ := (CardNumber.parse_ok_iff t n).mp parsed
      simp only [CardNumber.hasDigitShape, Bool.and_eq_true] at shape
      exact same ▸ shape.2

/-! ## Listing every card -/

theorem mapM_ok_of_forall {α β ε : Type} {f : α → Except ε β} {l : List α}
    (ok : ∀ x ∈ l, ∃ y, f x = .ok y) :
    ∃ ys, l.mapM f = .ok ys ∧ ys.length = l.length ∧ ∀ y, y ∈ ys ↔ ∃ x ∈ l, f x = .ok y := by
  induction l with
  | nil => exact ⟨[], rfl, rfl, by simp⟩
  | cons x rest ih =>
    obtain ⟨y, first⟩ := ok x List.mem_cons_self
    obtain ⟨ys, others, count, mem⟩ := ih fun z member => ok z (List.mem_cons_of_mem x member)
    refine ⟨y :: ys, by simp [List.mapM_cons, first, others, bind, Except.bind, pure,
      Except.pure], by simp [count], fun y' => ?_⟩
    simp only [List.mem_cons, mem, exists_eq_or_imp, first, Except.ok.injEq]
    exact ⟨fun found => found.imp Eq.symm id, fun found => found.imp Eq.symm id⟩

namespace Store

variable {s : Store}

theorem findAll_default
    (opens : ∀ (id : CardId) (rec : Record), s.cards[id]? = some rec →
      ∃ c, rec.openWith s.sealer = .ok c) :
    ∃ cs, s.findAll {} = .ok cs ∧ cs.length = s.cards.size ∧
      ∀ c, c ∈ cs ↔ ∃ (id : CardId) (rec : Record), s.cards[id]? = some rec ∧
        rec.openWith s.sealer = .ok c := by
  have each : ∀ rec ∈ s.sortedRecords, ∃ c, rec.openWith s.sealer = .ok c := by
    intro rec member
    simp only [sortedRecords, List.mem_mergeSort] at member
    obtain ⟨id, row⟩ := mem_records.mp member
    exact opens id rec row
  obtain ⟨cs, mapped, count, mem⟩ := mapM_ok_of_forall each
  have everyCard : ∀ c ∈ cs, ({} : Card.Filter).accepts c = true := by
    intro c _
    simp [Card.Filter.accepts]
  refine ⟨cs, by simp [findAll, mapped, Except.map, List.filter_eq_self.mpr everyCard], ?_, ?_⟩
  · simp [count, sortedRecords, records]
  · intro c
    rw [mem c]
    simp only [sortedRecords, List.mem_mergeSort, mem_records]
    constructor
    · rintro ⟨rec, ⟨id, row⟩, opened⟩
      exact ⟨id, rec, row, opened⟩
    · rintro ⟨id, rec, row, opened⟩
      exact ⟨rec, ⟨id, row⟩, opened⟩

end Store

namespace ScriptRunner

variable {σ : Type}

/-! ## Owner labels -/

theorem ownerName_ownerIdOf [CardRepository σ] {r : ScriptRunner σ} (apart : r.OwnersApart)
    {l : String} (registered : l ∈ r.owners) : r.ownerName (ownerIdOf l) = l := by
  unfold ownerName
  cases found : r.owners.find? (ownerIdOf · == ownerIdOf l) with
  | none =>
    rw [List.find?_eq_none] at found
    exact absurd (beq_self_eq_true _) (found l registered)
  | some l' =>
    have same : ownerIdOf l' = ownerIdOf l := by simpa using List.find?_some found
    exact List.inj_on_of_nodup_map apart (List.mem_of_find?_eq_some found) registered same

/-! ## The report -/

def line (r : ScriptRunner σ) (v : Card.View) : CardRow :=
  { card := ((r.cards.find? (·.2 == v.id)).map (·.1)).getD v.id.toText,
    owner := r.ownerName v.owner, number := v.maskedNumber, expiry := v.expiry.toText,
    status := v.status.name, balance := v.balance.toText }

theorem report_eq (r : ScriptRunner Store) :
    r.report = (r.engine.store.findAll {}).map fun cs =>
      ((cs.map Card.view).map r.line).mergeSort fun a b => decide (a.card ≤ b.card) := by
  have listing : Engine.exec (Engine.listCards ⟨Uuid.nil, .admin⟩ {}) r.engine =
      ((r.engine.store.findAll {}).map (List.map Card.view), r.engine) := by
    rcases listed : r.engine.store.findAll {} with e | cs <;>
      simp [Engine.listCards, listed, Identity.isAdmin, Except.map]
  unfold report
  dsimp only
  rw [show ((Engine.listCards ⟨Uuid.nil, .admin⟩ {}).run).run r.engine =
    Engine.exec (Engine.listCards ⟨Uuid.nil, .admin⟩ {}) r.engine from rfl, listing]
  rcases r.engine.store.findAll {} with e | cs <;> rfl

/-- `row` is the report line of a card the runner stores under `label`: the label, the owner's
label, twelve masked digits and the last four digits of the number, the expiry, the status and
the balance. -/
def Shows (r : ScriptRunner Store) (row : CardRow) : Prop :=
  ∃ (label : String) (id : CardId) (rec : Record) (c : Card) (ownerLabel : String),
    (label, id) ∈ r.cards ∧ r.engine.store.cards[id]? = some rec ∧
    rec.openWith r.engine.sealer = .ok c ∧ rec.owner = ownerIdOf ownerLabel ∧
    ownerLabel ∈ r.owners ∧
    row = { card := label, owner := ownerLabel,
            number := "**** **** **** " ++
              String.ofList (c.number.text.toList.drop (c.number.text.length - 4)),
            expiry := rec.expiry.toText, status := rec.status.name, balance := rec.balance.toText }

theorem find?_label {cards : List (String × CardId)} (apart : (cards.map (·.2)).Nodup)
    {label : String} {id : CardId} (bound : (label, id) ∈ cards) :
    cards.find? (·.2 == id) = some (label, id) := by
  cases found : cards.find? (·.2 == id) with
  | none =>
    rw [List.find?_eq_none] at found
    exact absurd (beq_self_eq_true id) (found _ bound)
  | some p =>
    have same : p.2 = id := by simpa using List.find?_some found
    rw [List.inj_on_of_nodup_map apart (List.mem_of_find?_eq_some found) bound same]

namespace Labelled

variable {r : ScriptRunner Store}

theorem length_cards (labelled : r.Labelled) : r.cards.length = r.engine.store.cards.size := by
  have perm : (r.cards.map (·.2)).Perm r.engine.store.cards.keys := by
    rw [List.perm_ext_iff_of_nodup labelled.idsApart Std.HashMap.nodup_keys]
    intro id
    simp only [List.mem_map, Std.HashMap.mem_keys, Std.HashMap.mem_iff_isSome_getElem?,
      ← labelled.named id]
    constructor
    · rintro ⟨⟨l, i⟩, bound, rfl⟩
      exact ⟨l, bound⟩
    · rintro ⟨l, bound⟩
      exact ⟨(l, id), bound, rfl⟩
  simpa using perm.length_eq

theorem line_of_stored (labelled : r.Labelled) (apart : r.OwnersApart) {label : String}
    {id : CardId} {rec : Record} {c : Card} {ownerLabel : String} (bound : (label, id) ∈ r.cards)
    (row : r.engine.store.cards[id]? = some rec) (opened : rec.openWith r.engine.sealer = .ok c)
    (owner : rec.owner = ownerIdOf ownerLabel) (registered : ownerLabel ∈ r.owners) :
    r.line c.view =
      { card := label, owner := ownerLabel,
        number := "**** **** **** " ++
          String.ofList (c.number.text.toList.drop (c.number.text.length - 4)),
        expiry := rec.expiry.toText, status := rec.status.name, balance := rec.balance.toText } := by
  have mirrors := Record.openWith_mirrors opened
  have sameId : c.id = id := mirrors.1.trans (labelled.consistent.keyed id rec row)
  obtain ⟨-, sameOwner, sameExpiry, sameStatus, sameBalance, -⟩ := mirrors
  simp only [line, Card.view, sameId, find?_label labelled.idsApart bound, sameOwner, owner,
    ownerName_ownerIdOf apart registered, CardNumber.masked_eq (Record.openWith_digits opened),
    sameExpiry, sameStatus, sameBalance, Option.map_some, Option.getD_some]

theorem report_shows (labelled : r.Labelled) (apart : r.OwnersApart) :
    ∃ rows, r.report = .ok rows ∧ (rows.map (·.card)).Pairwise (· < ·) ∧
      (rows.map (·.card)).Perm (r.cards.map (·.1)) ∧ ∀ row, row ∈ rows ↔ r.Shows row := by
  have opens : ∀ (id : CardId) (rec : Record), r.engine.store.cards[id]? = some rec →
      ∃ c, rec.openWith r.engine.store.sealer = .ok c := by
    rw [labelled.sealer]
    exact labelled.opens
  obtain ⟨cs, listed, count, listedIff⟩ := Store.findAll_default opens
  rw [labelled.sealer] at listedIff
  let rows := ((cs.map Card.view).map r.line).mergeSort fun a b => decide (a.card ≤ b.card)
  have shows : ∀ row, row ∈ rows ↔ r.Shows row := by
    intro row
    simp only [rows, List.mem_mergeSort, List.map_map, List.mem_map, Function.comp_apply]
    constructor
    · rintro ⟨c, member, rfl⟩
      obtain ⟨id, rec, stored, opened⟩ := (listedIff c).mp member
      obtain ⟨label, bound⟩ := (labelled.named id).mpr (by simp [stored])
      obtain ⟨l, registered, owner⟩ := labelled.owned id rec stored
      exact ⟨label, id, rec, c, l, bound, stored, opened, owner, registered,
        labelled.line_of_stored apart bound stored opened owner registered⟩
    · rintro ⟨label, id, rec, c, ownerLabel, bound, stored, opened, owner, registered, rfl⟩
      exact ⟨c, (listedIff c).mpr ⟨id, rec, stored, opened⟩,
        labelled.line_of_stored apart bound stored opened owner registered⟩
  -- every label has its line, and there are as many lines as labels
  have labelsIn : r.cards.map (·.1) ⊆ rows.map (·.card) := by
    intro label member
    obtain ⟨⟨l, id⟩, bound, rfl⟩ := List.mem_map.mp member
    obtain ⟨rec, stored⟩ := Option.isSome_iff_exists.mp ((labelled.named id).mp ⟨l, bound⟩)
    obtain ⟨c, opened⟩ := labelled.opens id rec stored
    obtain ⟨ownerLabel, registered, owner⟩ := labelled.owned id rec stored
    exact List.mem_map.mpr ⟨_, (shows _).mpr ⟨l, id, rec, c, ownerLabel, bound, stored,
      opened, owner, registered, rfl⟩, rfl⟩
  have fewer : (rows.map (·.card)).length ≤ (r.cards.map (·.1)).length := by
    simp [rows, count, labelled.length_cards]
  have perm := ((labelled.labelsApart.subperm labelsIn).perm_of_length_le fewer).symm
  -- the lines are sorted by label, and no label repeats
  have sorted : (rows.map (·.card)).Pairwise (· ≤ ·) := by
    have byLabel : rows.Pairwise fun a b => decide (a.card ≤ b.card) :=
      List.pairwise_mergeSort
        (fun a b c ab bc => by simpa using le_trans (of_decide_eq_true ab) (of_decide_eq_true bc))
        (fun a b => by simpa using le_total a.card b.card) _
    exact List.pairwise_map.mpr (byLabel.imp fun le => of_decide_eq_true le)
  have distinct := perm.nodup_iff.mpr labelled.labelsApart
  refine ⟨rows, by simp [report_eq, listed, Except.map, rows], ?_, perm, shows⟩
  exact (sorted.and distinct).imp fun both => lt_of_le_of_ne both.1 both.2

end Labelled

/-- Script runs keep labels and the store in step. Run any script on an engine over an empty
store that only the runner writes. After every command, distinct labels name distinct cards,
every label names a stored card and every stored card has exactly one label; a command that
fails leaves the labels and the store as they were; registered owner labels stand for distinct
identifiers; and the report lists one line per stored card, ordered by label, each showing its
card. -/
theorem runAll_keeps_labels_in_step (sealer : Sealer) (config : Config) (entropy : Entropy)
    (script : List (Outcome Command)) :
    let r := (({ engine := { store := Store.empty sealer, sealer, config, entropy } } :
      ScriptRunner Store).runAll script).2
    (r.cards.map (·.1)).Nodup ∧ (r.cards.map (·.2)).Nodup ∧
    (∀ label id, (label, id) ∈ r.cards → ∃ rec, r.engine.store.cards[id]? = some rec) ∧
    (∀ id rec, r.engine.store.cards[id]? = some rec → ∃! label, (label, id) ∈ r.cards) ∧
    (∀ c e, (r.run c).1 = .error e →
      (r.run c).2.cards = r.cards ∧ (r.run c).2.engine.store = r.engine.store) ∧
    (r.OwnersApart ∧ ∃ rows, r.report = .ok rows ∧ (rows.map (·.card)).Pairwise (· < ·) ∧
      (rows.map (·.card)).Perm (r.cards.map (·.1)) ∧ ∀ row, row ∈ rows ↔ r.Shows row) := by
  intro r
  have labelled : r.Labelled := (labelled_start sealer config entropy).runAll script
  refine ⟨labelled.labelsApart, labelled.idsApart, ?_, ?_, ?_, labelled.ownersApart,
    labelled.report_shows labelled.ownersApart⟩
  · intro label id bound
    exact Option.isSome_iff_exists.mp ((labelled.named id).mp ⟨label, bound⟩)
  · intro id rec stored
    obtain ⟨label, bound⟩ := (labelled.named id).mpr (by simp [stored])
    refine ⟨label, bound, fun other otherBound => ?_⟩
    -- two labels of one card would be two entries with one identifier
    have same := List.inj_on_of_nodup_map labelled.idsApart otherBound bound rfl
    exact (Prod.mk.inj same).1
  · intro c e failed
    exact (stepped_run r c labelled.consistent.keyed).failed e failed

end ScriptRunner

end CardLedger
