import Mathlib
import CardLedger.Proofs.EngineEffects

/-!
# Generating and issuing card numbers

A generation draws up to `maxGenerationAttempts` candidates. Each candidate is fifteen random
digits completed by their Luhn digit and sealed under a fresh nonce, and the store is asked
whether it holds that blob. The first candidate reported absent is the result, together with
the very blob that was asked about; an error of the store ends the generation at once; and when
every answer was "taken" the generation gives up with `exhaustedGeneration`.

To see the existence checks, the statements run the engine over `Audited σ`: any store `σ`,
whose every call is passed on, together with the list of the blobs it was asked about and the
answers it gave. Since `σ` is arbitrary, so are the answers. `exec_generate_audited` reads the
outcome of a generation off that list (`GenerationEnd`), and `exec_issueCard_audited` follows an
issue on the plain store: a caller without the admin role is refused before anything is drawn
or asked, and an admin's issue inserts the generated blob, or leaves the store as it was.
-/

namespace CardLedger

/-- A store that records, in order, every sealed number it is asked about with the answer it
gave; every call goes on to the store it wraps. -/
structure Audited (σ : Type) where
  inner : σ
  asked : List (Blob × Outcome Bool)

namespace Audited

variable {σ : Type} [CardRepository σ]

def lift {α : Type} (m : RepoM σ α) : RepoM (Audited σ) α :=
  ExceptT.mk fun a =>
    let (result, inner) := (m.run).run a.inner
    (result, { a with inner })

def hasNumber (blob : Blob) : RepoM (Audited σ) Bool :=
  ExceptT.mk fun a =>
    let (answer, inner) := ((CardRepository.hasNumber blob : RepoM σ Bool).run).run a.inner
    (answer, { inner, asked := a.asked ++ [(blob, answer)] })

instance : CardRepository (Audited σ) where
  findById id := lift (CardRepository.findById id)
  findByIdAndOwner id owner := lift (CardRepository.findByIdAndOwner id owner)
  findAll f := lift (CardRepository.findAll f)
  hasNumber := hasNumber
  insert card blob := lift (CardRepository.insert card blob)
  save card := lift (CardRepository.save card)
  saveBoth first second := lift (CardRepository.saveBoth first second)
  sumByOwner owner := lift (CardRepository.sumByOwner owner)
  delete id := lift (CardRepository.delete id)

end Audited

theorem Sealer.Drawn.parse_and_open {sealer : Sealer} {number : CardNumber} {blob : Blob}
    (drawn : sealer.Drawn number blob) :
    CardNumber.parse number.text = .ok number ∧ sealer.openBlob blob = .ok number.text := by
  obtain ⟨e, rfl, sealed⟩ := drawn
  have twelve : e.drawnNonce.length = Sealer.nonceLength := by simp [Entropy.drawnNonce]
  exact ⟨Entropy.parse_candidate e, sealer.openBlob_sealWithNonce twelve sealed⟩

namespace Engine

/-- How a generation of at most `attempts` draws ended, read off its existence checks in the
order they were made (candidate, blob asked about, answer): at the first candidate reported
absent, at the first check that failed, or, after exactly `attempts` checks all answered
"taken", with `gaveUp`. -/
def GenerationEnd {α : Type} (found : CardNumber × Blob → α) (gaveUp : Outcome α)
    (attempts : Nat) (checks : List (CardNumber × Blob × Outcome Bool)) (result : Outcome α) :
    Prop :=
  (∃ taken number blob, checks = taken ++ [(number, blob, .ok false)] ∧
      (∀ c ∈ taken, c.2.2 = .ok true) ∧ result = .ok (found (number, blob))) ∨
  (∃ taken number blob e, checks = taken ++ [(number, blob, .error e)] ∧
      (∀ c ∈ taken, c.2.2 = .ok true) ∧ result = .error e) ∨
  ((∀ c ∈ checks, c.2.2 = .ok true) ∧ checks.length = attempts ∧ result = gaveUp)

namespace GenerationEnd

variable {α : Type} {found : CardNumber × Blob → α} {gaveUp : Outcome α} {attempts : Nat}
  {checks : List (CardNumber × Blob × Outcome Bool)} {result : Outcome α}

theorem taken (ended : GenerationEnd found gaveUp attempts checks result) (number : CardNumber)
    (blob : Blob) :
    GenerationEnd found gaveUp (attempts + 1) ((number, blob, .ok true) :: checks) result := by
  rcases ended with ⟨taken, n, b, rfl, present, done⟩ | ⟨taken, n, b, e, rfl, present, done⟩ |
    ⟨present, counted, done⟩
  · exact .inl ⟨(number, blob, .ok true) :: taken, n, b, rfl, by simpa using present, done⟩
  · exact .inr (.inl ⟨(number, blob, .ok true) :: taken, n, b, e, rfl, by simpa using present,
      done⟩)
  · exact .inr (.inr ⟨by simpa using present, by simp [counted], done⟩)

end GenerationEnd

theorem exec_generate_eq {σ : Type} [CardRepository σ] (eng : Engine σ) :
    exec generate eng =
      (match (exec (generateFrom eng.config.maxGenerationAttempts) eng).1 with
        | .ok (some f) => .ok f
        | .ok none => .error (.exhaustedGeneration eng.config.maxGenerationAttempts)
        | .error e => .error e,
        (exec (generateFrom eng.config.maxGenerationAttempts) eng).2) := by
  rcases looped : exec (generateFrom eng.config.maxGenerationAttempts) eng with
    ⟨e | (_ | found), eng'⟩ <;>
  simp [generate, exec_bind, looped]

section AnyStore

variable {σ : Type} [CardRepository σ] (eng : Engine (Audited σ))

theorem exec_hasNumber_audited (blob : Blob) :
    exec (onStore (CardRepository.hasNumber blob)) eng =
      ((((CardRepository.hasNumber blob : RepoM σ Bool).run).run eng.store.inner).1,
        { eng with store :=
          { inner := (((CardRepository.hasNumber blob : RepoM σ Bool).run).run eng.store.inner).2,
            asked := eng.store.asked ++
              [(blob, (((CardRepository.hasNumber blob : RepoM σ Bool).run).run
                eng.store.inner).1)] } }) := rfl

theorem exec_generateFrom_succ (attempts : Nat) :
    ∃ blob, eng.sealer.sealWithNonce eng.entropy.drawnNonce eng.entropy.candidate.text = some blob ∧
      exec (generateFrom (attempts + 1)) eng =
        match (((CardRepository.hasNumber blob : RepoM σ Bool).run).run eng.store.inner) with
        | (.ok true, inner) => exec (generateFrom attempts)
            { eng with entropy := eng.entropy.afterNumber,
                       store := ⟨inner, eng.store.asked ++ [(blob, .ok true)]⟩ }
        | (.ok false, inner) => (.ok (some (eng.entropy.candidate, blob)),
            { eng with entropy := eng.entropy.afterNumber,
                       store := ⟨inner, eng.store.asked ++ [(blob, .ok false)]⟩ })
        | (.error e, inner) => (.error e,
            { eng with entropy := eng.entropy.afterNumber,
                       store := ⟨inner, eng.store.asked ++ [(blob, .error e)]⟩ }) := by
  obtain ⟨blob, sealed, drawn⟩ := exec_drawNumber eng
  refine ⟨blob, sealed, ?_⟩
  rcases asked : ((CardRepository.hasNumber blob : RepoM σ Bool).run).run eng.store.inner with
    ⟨e | (_ | _), inner⟩ <;>
  simp [generateFrom, exec_bind, drawn, exec_hasNumber_audited, asked]

theorem exec_generateFrom_audited (attempts : Nat) :
    ∃ (checks : List (CardNumber × Blob × Outcome Bool)) (inner : σ) (entropy : Entropy),
      checks.length ≤ attempts ∧ (∀ c ∈ checks, eng.sealer.Drawn c.1 c.2.1) ∧
      (exec (generateFrom attempts) eng).2 =
        { eng with store := ⟨inner, eng.store.asked ++ checks.map fun c => (c.2.1, c.2.2)⟩,
                   entropy } ∧
      GenerationEnd some (.ok none) attempts checks (exec (generateFrom attempts) eng).1 := by
  induction attempts generalizing eng with
  | zero =>
    exact ⟨[], eng.store.inner, eng.entropy, le_rfl, by simp, by simp [generateFrom],
      .inr (.inr ⟨by simp, rfl, rfl⟩)⟩
  | succ attempts induction =>
    obtain ⟨blob, sealed, step⟩ := exec_generateFrom_succ eng attempts
    have drawn : eng.sealer.Drawn eng.entropy.candidate blob := ⟨eng.entropy, rfl, sealed⟩
    rw [step]
    rcases ((CardRepository.hasNumber blob : RepoM σ Bool).run).run eng.store.inner with
      ⟨e | (_ | _), inner⟩
    · -- the store failed: that is the answer, after one check
      exact ⟨[(eng.entropy.candidate, blob, .error e)], inner, eng.entropy.afterNumber,
        by simp, by simpa using drawn, rfl,
        .inr (.inl ⟨[], _, _, e, rfl, by simp, rfl⟩)⟩
    · -- absent: the candidate is the answer, after one check
      exact ⟨[(eng.entropy.candidate, blob, .ok false)], inner, eng.entropy.afterNumber,
        by simp, by simpa using drawn, rfl, .inl ⟨[], _, _, rfl, by simp, rfl⟩⟩
    · -- taken: the loop goes on with one draw fewer, after this check
      obtain ⟨checks, inner', entropy, bounded, drawnAll, after, ended⟩ :=
        induction { eng with entropy := eng.entropy.afterNumber,
                             store := ⟨inner, eng.store.asked ++ [(blob, .ok true)]⟩ }
      refine ⟨(eng.entropy.candidate, blob, .ok true) :: checks, inner', entropy,
        Nat.succ_le_succ bounded, ?_, by simp [after], ended.taken _ _⟩
      intro c member
      rcases List.mem_cons.mp member with rfl | later
      · exact drawn
      · exact drawnAll c later

theorem exec_generate_audited :
    ∃ (checks : List (CardNumber × Blob × Outcome Bool)) (inner : σ) (entropy : Entropy),
      checks.length ≤ eng.config.maxGenerationAttempts ∧
      (∀ c ∈ checks,
        CardNumber.parse c.1.text = .ok c.1 ∧ eng.sealer.openBlob c.2.1 = .ok c.1.text) ∧
      (exec generate eng).2 =
        { eng with store := ⟨inner, eng.store.asked ++ checks.map fun c => (c.2.1, c.2.2)⟩,
                   entropy } ∧
      GenerationEnd id (.error (.exhaustedGeneration eng.config.maxGenerationAttempts))
        eng.config.maxGenerationAttempts checks (exec generate eng).1 := by
  obtain ⟨checks, inner, entropy, bounded, drawn, after, ended⟩ :=
    exec_generateFrom_audited eng eng.config.maxGenerationAttempts
  have run := exec_generate_eq eng
  refine ⟨checks, inner, entropy, bounded, fun c member => (drawn c member).parse_and_open, ?_,
    ?_⟩
  · rw [run, after]
  · rw [run]
    rcases ended with ⟨taken, n, b, rfl, present, done⟩ | ⟨taken, n, b, e, rfl, present, done⟩ |
      ⟨present, counted, done⟩ <;> rw [done]
    · exact .inl ⟨taken, n, b, rfl, present, rfl⟩
    · exact .inr (.inl ⟨taken, n, b, e, rfl, present, rfl⟩)
    · exact .inr (.inr ⟨present, counted, rfl⟩)

end AnyStore

theorem exec_issueCard_of_not_admin {σ : Type} [CardRepository σ] (eng : Engine σ)
    {who : Identity} (notAdmin : who.isAdmin = false) (owner : OwnerId) (expiry : Expiry)
    (opening : Balance) :
    exec (issueCard who owner expiry opening) eng =
      (.error (.forbidden "Issuing a card requires the admin role"), eng) := by
  simp [issueCard, exec_bind, Identity.requireAdmin, notAdmin]

section Admin

variable {σ : Type} [CardRepository σ] (eng : Engine σ) {who : Identity}
  (admin : who.isAdmin = true) (owner : OwnerId) (expiry : Expiry) (opening : Balance)
include admin

theorem exec_issueCard_of_generate_error {e : CardError} {eng' : Engine σ}
    (generated : exec generate eng = (.error e, eng')) :
    exec (issueCard who owner expiry opening) eng = (.error e, eng') := by
  simp [issueCard, exec_bind, Identity.requireAdmin, admin, generated]

theorem exec_issueCard_of_generated {number : CardNumber} {blob : Blob} {eng' : Engine σ}
    (generated : exec generate eng = (.ok (number, blob), eng')) :
    exec (issueCard who owner expiry opening) eng =
      exec (onStore (CardRepository.insert
          (Card.issue (Uuid.randomV4 (Entropy.bits128 eng'.entropy).1) owner number expiry
            opening) blob))
        { eng' with entropy := (Entropy.bits128 eng'.entropy).2 } := by
  simp [issueCard, exec_bind, Identity.requireAdmin, admin, generated, exec_newCardId]

end Admin

section PlainStore

variable (eng : Engine (Audited Store))

@[simp] theorem exec_insert_audited (card : Card) (blob : Blob) :
    exec (onStore (CardRepository.insert card blob)) eng =
      match eng.store.inner.insert card blob with
      | .ok (c, s') => (.ok c, { eng with store := { eng.store with inner := s' } })
      | .error e => (.error e, eng) := by
  rcases inserted : eng.store.inner.insert card blob with e | ⟨c, s'⟩ <;>
    simp [exec_onStore, CardRepository.insert, Audited.lift, RepoM.write, StateT.run, inserted]

theorem exec_generateFrom_keeps_inner (attempts : Nat) :
    (exec (generateFrom attempts) eng).2.store.inner = eng.store.inner := by
  induction attempts generalizing eng with
  | zero => rfl
  | succ attempts induction =>
    obtain ⟨blob, -, step⟩ := exec_generateFrom_succ eng attempts
    have asked : ((CardRepository.hasNumber blob : RepoM Store Bool).run).run eng.store.inner =
        (.ok (eng.store.inner.hasNumber blob), eng.store.inner) := rfl
    rw [step, asked]
    cases eng.store.inner.hasNumber blob
    · rfl
    · exact induction _

theorem exec_generate_keeps_inner {result : Outcome (CardNumber × Blob)}
    {eng' : Engine (Audited Store)} (generated : exec generate eng = (result, eng')) :
    eng'.store.inner = eng.store.inner := by
  have kept : (exec generate eng).2.store.inner = eng.store.inner := by
    rw [exec_generate_eq]
    exact exec_generateFrom_keeps_inner eng _
  rw [generated] at kept
  exact kept

theorem exec_issueCard_audited {who : Identity} (admin : who.isAdmin = true) (owner : OwnerId)
    (expiry : Expiry) (opening : Balance) :
    (exec (issueCard who owner expiry opening) eng).2.store.asked =
        (exec generate eng).2.store.asked ∧
      (((∃ e, (exec (issueCard who owner expiry opening) eng).1 = .error e) ∧
          (exec (issueCard who owner expiry opening) eng).2.store.inner = eng.store.inner) ∨
        ∃ number blob id, (exec generate eng).1 = .ok (number, blob) ∧
          id ∉ eng.store.inner.cards ∧
          (exec (issueCard who owner expiry opening) eng).1 =
            .ok { id, owner, number, expiry, status := .active, balance := opening,
                  version := 1 } ∧
          (exec (issueCard who owner expiry opening) eng).2.store.inner =
            { eng.store.inner with
              cards := eng.store.inner.cards.insert id
                { id, owner, number := blob, expiry, status := .active, balance := opening,
                  version := 1 },
              numbers := eng.store.inner.numbers.insert blob id }) := by
  rcases generated : exec generate eng with ⟨e | ⟨number, blob⟩, eng'⟩
  · have failed := exec_issueCard_of_generate_error eng admin owner expiry opening generated
    exact ⟨by rw [failed], .inl ⟨⟨e, by rw [failed]⟩,
      by rw [failed]; exact exec_generate_keeps_inner eng generated⟩⟩
  have kept := exec_generate_keeps_inner eng generated
  -- the identifier is drawn after the number, from the source the generation left
  let id := Uuid.randomV4 (Entropy.bits128 eng'.entropy).1
  have run := exec_issueCard_of_generated eng admin owner expiry opening generated
  rcases inserted : eng'.store.inner.insert (Card.issue id owner number expiry opening) blob
    with e | ⟨c, s'⟩
  · have failed : exec (issueCard who owner expiry opening) eng =
        (.error e, { eng' with entropy := (Entropy.bits128 eng'.entropy).2 }) := by
      rw [run, exec_insert_audited, inserted]
    exact ⟨by rw [failed], .inl ⟨⟨e, by rw [failed]⟩, by rw [failed]; exact kept⟩⟩
  · obtain ⟨-, freshId, rfl, rfl⟩ := Store.insert_eq_ok inserted
    have done : exec (issueCard who owner expiry opening) eng =
        (.ok { Card.issue id owner number expiry opening with version := 1 },
          { eng' with
            entropy := (Entropy.bits128 eng'.entropy).2,
            store := { eng'.store with inner := { eng'.store.inner with
              numbers := eng'.store.inner.numbers.insert blob id,
              cards := eng'.store.inner.cards.insert id
                (Record.ofCard (Card.issue id owner number expiry opening) blob) } } }) := by
      rw [run, exec_insert_audited, inserted]
      rfl
    have unknown : id ∉ eng.store.inner.cards := by
      rw [← kept]
      exact Std.HashMap.contains_eq_false_iff_not_mem.mp freshId
    refine ⟨by rw [done], .inr ⟨number, blob, id, rfl, unknown, by rw [done]; rfl, ?_⟩⟩
    rw [done, ← kept]
    rfl

end PlainStore

/-- Generation and issuance. Over every store, whatever its existence checks answer, from every
random source and with every number of attempts: a generation makes at most that many checks,
each on the blob of a 16-digit Luhn-valid number that opens to it, and answers the first
candidate reported absent with the very blob it asked about, a failed check's error at once, or
`exhaustedGeneration` after exactly that many checks all answered "taken". A caller without the
admin role is refused before anything is drawn or asked. An admin's issue on the plain store
asks nothing more than the generation; when the generation or the insert fails the rows and index
stay as they were, and otherwise the store gains exactly one row, under the generated blob:
active, at version 1, with the given owner, expiry and opening balance. -/
theorem generation_checks_then_issue :
    (∀ {σ : Type} [CardRepository σ] (eng : Engine (Audited σ)),
      ∃ (checks : List (CardNumber × Blob × Outcome Bool)) (inner : σ) (entropy : Entropy),
        checks.length ≤ eng.config.maxGenerationAttempts ∧
        (∀ c ∈ checks,
          CardNumber.parse c.1.text = .ok c.1 ∧ eng.sealer.openBlob c.2.1 = .ok c.1.text) ∧
        (exec generate eng).2 =
          { eng with store := ⟨inner, eng.store.asked ++ checks.map fun c => (c.2.1, c.2.2)⟩,
                     entropy } ∧
        GenerationEnd id (.error (.exhaustedGeneration eng.config.maxGenerationAttempts))
          eng.config.maxGenerationAttempts checks (exec generate eng).1) ∧
    (∀ {σ : Type} [CardRepository σ] (eng : Engine σ) (who : Identity) (owner : OwnerId)
        (expiry : Expiry) (opening : Balance), who.isAdmin = false →
      exec (issueCard who owner expiry opening) eng =
        (.error (.forbidden "Issuing a card requires the admin role"), eng)) ∧
    (∀ (eng : Engine (Audited Store)) (who : Identity) (owner : OwnerId) (expiry : Expiry)
        (opening : Balance), who.isAdmin = true →
      (exec (issueCard who owner expiry opening) eng).2.store.asked =
          (exec generate eng).2.store.asked ∧
        (((∃ e, (exec (issueCard who owner expiry opening) eng).1 = .error e) ∧
            (exec (issueCard who owner expiry opening) eng).2.store.inner = eng.store.inner) ∨
          ∃ number blob id, (exec generate eng).1 = .ok (number, blob) ∧
            id ∉ eng.store.inner.cards ∧
            (exec (issueCard who owner expiry opening) eng).1 =
              .ok { id, owner, number, expiry, status := .active, balance := opening,
                    version := 1 } ∧
            (exec (issueCard who owner expiry opening) eng).2.store.inner =
              { eng.store.inner with
                cards := eng.store.inner.cards.insert id
                  { id, owner, number := blob, expiry, status := .active, balance := opening,
                    version := 1 },
                numbers := eng.store.inner.numbers.insert blob id })) :=
  ⟨fun eng => exec_generate_audited eng,
    fun eng _ owner expiry opening notAdmin =>
      exec_issueCard_of_not_admin eng notAdmin owner expiry opening,
    fun eng _ owner expiry opening admin => exec_issueCard_audited eng admin owner expiry opening⟩

end Engine

end CardLedger
