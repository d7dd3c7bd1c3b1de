import Mathlib
import CardLedger.Proofs.Footprints

/-!
# Calls running together on one engine

Calls of the engine run as tasks that interleave at their await points. A task runs its
call's script: a store call is one atomic step, and at a guard the task asks the lock table for
the guard's cards and then waits, one step at a time, until it is handed all of them. A task
may be cancelled whenever it is not running a step: it drops its guard and leaves without a
result. When its script returns, the task drops its guard and its result is logged. Each task
draws its numbers from a source of its own.

Main statement (`World.run_serial`): whatever the schedule and whatever is cancelled, running
the calls that returned one at a time, in the order they returned, gives each of them the result
it returned and leaves the store as it is; so a cancelled call had no effect. It asks that
no two issues draw the same nonce and that the first store holds no number sealed under one.

The proof carries an invariant over every reachable world (`World.Inv`): each running task has
reached its point by reads it relies on (`Script.Trace`) on the current store, and the lock
table holds exactly the cards each task counts as held. A write of one task then leaves every
read another relies on as it was (`Request.perform_of_protected`), since their cards are apart
(`LockTable.Sound.exclusive`).
-/

namespace CardLedger

/-- A call started on the engine under a name, with the source it draws its numbers from. -/
structure Job where
  name : String
  call : Call
  entropy : Entropy

namespace Job

open Engine

def nonce? (j : Job) : Option (List UInt8) := j.call.nonce? j.entropy

def NoncesApart (jobs : List Job) : Prop :=
  ∀ a ∈ jobs, ∀ b ∈ jobs, a.name ≠ b.name → ∀ n, a.nonce? = some n →
    b.nonce? ≠ some n

def serial (config : Config) (sealer : Sealer) :
    List Job → Store → List (Outcome Reply) × Store
  | [], s => ([], s)
  | j :: rest, s =>
    let first := exec j.call.run { store := s, sealer, config, entropy := j.entropy }
    let after := serial config sealer rest first.2.store
    (first.1 :: after.1, after.2)

theorem serial_append (config : Config) (sealer : Sealer) (jobs : List Job) (j : Job)
    (s : Store) :
    serial config sealer (jobs ++ [j]) s =
      let before := serial config sealer jobs s
      let last := exec j.call.run { store := before.2, sealer, config, entropy := j.entropy }
      (before.1 ++ [last.1], last.2.store) := by
  induction jobs generalizing s with
  | nil => rfl
  | cons first rest ih => simp [serial, ih]

end Job

theorem Store.freshFor_seeded (sealer : Sealer) (seeds : List (Card × Blob))
    (ids : (seeds.map (·.1.id)).Nodup) (blobs : (seeds.map (·.2)).Nodup) {n : List UInt8}
    (apart : ∀ seed ∈ seeds, seed.2.nonce ≠ some n) :
    (StoreCall.runAll (seeds.map fun seed => .insert seed.1 seed.2) (Store.empty sealer)).FreshFor
      (some n) := by
  rw [StoreCall.runAll_inserts seeds (by simp [Store.empty]) (by simp [Store.empty]) ids blobs]
  rintro _ ⟨⟩ id r row
  rcases StoreCall.seeded_row seeds row with before | ⟨seed, member, rfl⟩
  · simp [Store.empty] at before
  · exact apart seed member

/-- A running job: the point of its script it has reached and the cards whose locks it holds. -/
structure Task extends Job where
  rest : Script Reply
  held : List CardId

/-- The engine while calls run: the store, the lock table, the running tasks, and the jobs that
returned, in the order they returned, with their results. -/
structure World where
  store : Store
  locks : LockTable
  tasks : List Task
  log : List (Job × Outcome Reply)

/-- What the scheduler does next: run a task to its next await point, or cancel it there. -/
inductive Event where
  | step (name : String)
  | cancel (name : String)

namespace World

def dropGuard (locks : LockTable) (name : String) : LockTable :=
  match locks.step (.release name) with
  | .ok locks => locks
  | .error _ => locks

/-- The lock step of a task at a guard: it asks for the guard's cards, and afterwards takes what
it was handed. -/
def acquire (locks : LockTable) (name : String) (g : Guard) : LockStep :=
  if (locks.find? name).isSome then .poll name else g.request name

def place (tasks : List Task) (task : Task) : List Task :=
  tasks.map fun t => if t.name == task.name then task else t

def finish (w : World) (task : Task) (result : Outcome Reply) (store : Store)
    (locks : LockTable) : World :=
  { w with
    store := store
    locks := dropGuard locks task.name
    tasks := w.tasks.filter (·.name != task.name)
    log := w.log ++ [(task.toJob, result)] }

def reach (w : World) (task : Task) (rest : Script Reply) (held : List CardId) (store : Store)
    (locks : LockTable) : World :=
  match rest with
  | .done result => w.finish task result store locks
  | rest => { w with store, locks, tasks := place w.tasks { task with rest, held } }

def resume (w : World) (task : Task) : World :=
  match task.rest with
  | .done result => w.finish task result w.store w.locks
  | .call r next =>
    w.reach task (next (r.perform w.store).1) task.held (r.perform w.store).2 w.locks
  | .lock g next =>
    match w.locks.step (acquire w.locks task.name g) with
    | .ok locks =>
      if (locks.find? task.name).any (·.complete) then w.reach task next g.ids w.store locks
      else { w with locks }
    | .error _ => w

def cancel (w : World) (task : Task) : World :=
  { w with locks := dropGuard w.locks task.name, tasks := w.tasks.filter (·.name != task.name) }

def apply (w : World) : Event → World
  | .step name =>
    match w.tasks.find? (·.name == name) with
    | some task => w.resume task
    | none => w
  | .cancel name =>
    match w.tasks.find? (·.name == name) with
    | some task => w.cancel task
    | none => w

def run (w : World) (events : List Event) : World := events.foldl apply w

def start (config : Config) (sealer : Sealer) (store : Store) (jobs : List Job) : World :=
  { store, locks := {}, log := [],
    tasks := jobs.map fun j =>
      { toJob := j, rest := j.call.script config sealer j.entropy, held := [] } }

/-! ## The lock table under the scheduler -/

theorem sound_dropGuard {locks : LockTable} (sound : locks.Sound) (name : String) :
    (dropGuard locks name).Sound := by
  unfold dropGuard
  split
  · rename_i stepped
    exact sound.step stepped
  · exact sound

theorem find?_dropGuard {locks : LockTable} {name n : String} (other : n ≠ name) :
    (dropGuard locks name).find? n = locks.find? n := by
  unfold dropGuard
  split
  · rename_i stepped
    exact LockTable.find?_step_of_ne stepped other
  · rfl

@[simp] theorem slot_acquire (locks : LockTable) (name : String) (g : Guard) :
    (acquire locks name g).slot = name := by
  unfold acquire
  split
  · rfl
  · cases g <;> rfl

theorem acquire_spec {locks : LockTable} {name : String} {g : Guard}
    (asked : locks.find? name = none ∨ ∃ r, locks.find? name = some r ∧ r.ids = g.ids) :
    ∃ locks' r, locks.step (acquire locks name g) = .ok locks' ∧ locks'.find? name = some r ∧
      r.ids = g.ids := by
  rcases asked with fresh | ⟨r, found, ids⟩
  · have asks : acquire locks name g = g.request name := by simp [acquire, fresh]
    rw [asks]
    cases g with
    | one id =>
      obtain ⟨locks', held, stepped, found⟩ := LockTable.find?_step_lock fresh id
      exact ⟨locks', _, stepped, found, rfl⟩
    | pair a b =>
      obtain ⟨locks', held, stepped, found⟩ := LockTable.find?_step_lockPair fresh a b
      exact ⟨locks', _, stepped, found, rfl⟩
  · have polls : acquire locks name g = .poll name := by simp [acquire, found]
    rw [polls]
    obtain ⟨locks', held, stepped, found'⟩ := LockTable.find?_step_poll found
    exact ⟨locks', _, stepped, found', ids⟩

/-- How a task stands in the lock table: with no cards it has no request, or waits at a guard
under a request for the guard's cards; with cards, its request holds exactly them. -/
inductive Standing (locks : LockTable) (t : Task) : Prop
  | idle : t.held = [] → locks.find? t.name = none → Standing locks t
  | waiting {g : Guard} {next : Script Reply} {r : LockRequest} : t.held = [] →
      t.rest = .lock g next → locks.find? t.name = some r → r.ids = g.ids → Standing locks t
  | holding {r : LockRequest} : t.held ≠ [] → locks.find? t.name = some r → r.ids = t.held →
      r.complete = true → Standing locks t

namespace Standing

variable {locks : LockTable} {t : Task}

theorem congr {locks' : LockTable} (standing : Standing locks t)
    (same : locks'.find? t.name = locks.find? t.name) : Standing locks' t := by
  cases standing with
  | idle empty missing => exact .idle empty (same.trans missing)
  | waiting empty waits found ids => exact .waiting empty waits (same.trans found) ids
  | holding nonempty found ids complete => exact .holding nonempty (same.trans found) ids complete

theorem keep (standing : Standing locks t) (going : ∀ g next, t.rest ≠ .lock g next)
    (rest : Script Reply) : Standing locks { t with rest } := by
  cases standing with
  | idle empty missing => exact .idle empty missing
  | waiting _ waits => exact absurd waits (going _ _)
  | holding nonempty found ids complete => exact .holding nonempty found ids complete

theorem holds (standing : Standing locks t) {id : CardId} (mem : id ∈ t.held) :
    ∃ r ∈ locks.requests, r.name = t.name ∧ id ∈ r.ids.take r.held := by
  cases standing with
  | idle empty => simp [empty] at mem
  | waiting empty => simp [empty] at mem
  | holding _ found ids complete =>
    refine ⟨_, List.mem_of_find?_eq_some found, by simpa using List.find?_some found, ?_⟩
    -- a complete request holds all its cards
    rw [List.take_of_length_le (by simpa [LockRequest.complete] using complete), ids]
    exact mem

end Standing

/-! ## Running tasks -/

theorem mem_place {tasks : List Task} {task t : Task} (placed : t ∈ place tasks task) :
    t = task ∨ (t ∈ tasks ∧ t.name ≠ task.name) := by
  simp only [place, List.mem_map] at placed
  obtain ⟨t', mem, rfl⟩ := placed
  by_cases same : t'.name = task.name
  · simp [same]
  · simp [same, mem]

@[simp] theorem names_place (tasks : List Task) (task : Task) :
    (place tasks task).map (·.name) = tasks.map (·.name) := by
  simp only [place, List.map_map]
  congr 1
  funext t
  by_cases same : t.name = task.name <;> simp [same]

theorem mem_filter_name {tasks : List Task} {t : Task} {name : String} :
    t ∈ tasks.filter (·.name != name) ↔ t ∈ tasks ∧ t.name ≠ name := by
  simp [List.mem_filter]

theorem nodup_finish {logged running : List String} {name : String}
    (nodup : (logged ++ running).Nodup) (mem : name ∈ running) :
    (logged ++ [name] ++ running.filter (· != name)).Nodup := by
  obtain ⟨left, right, apart⟩ := List.nodup_append.mp nodup
  refine List.nodup_append.mpr ⟨List.nodup_append.mpr ⟨left, List.nodup_singleton name, ?_⟩,
    right.filter _, ?_⟩
  · intro a old b new
    rw [List.mem_singleton.mp new]
    exact apart a old name mem
  · intro a before b kept
    obtain ⟨kept, other⟩ := List.mem_filter.mp kept
    rcases List.mem_append.mp before with old | new
    · exact apart a old b kept
    · rw [List.mem_singleton.mp new]
      rintro rfl
      simp at other

theorem reach_of_going {w : World} {task : Task} {rest : Script Reply}
    (going : ∀ result, rest ≠ .done result) (held : List CardId) (store : Store)
    (locks : LockTable) :
    w.reach task rest held store locks =
      { w with store, locks, tasks := place w.tasks { task with rest, held } } := by
  cases rest with
  | done result => exact absurd rfl (going result)
  | call r next => rfl
  | lock g next => rfl

/-! ## The invariant -/

/-- What holds of every world reached from the start, where `jobs` were started with these
settings on the store `initial`. -/
structure Inv (config : Config) (sealer : Sealer) (jobs : List Job) (initial : Store)
    (w : World) : Prop where
  consistent : w.store.Consistent
  sound : w.locks.Sound
  known : ∀ d ∈ w.log, d.1 ∈ jobs
  running : ∀ t ∈ w.tasks, t.toJob ∈ jobs
  names : (w.log.map (·.1.name) ++ w.tasks.map (·.name)).Nodup
  fresh : ∀ t ∈ w.tasks, w.store.FreshFor t.nonce?
  traced : ∀ t ∈ w.tasks,
    Script.Trace w.store t.nonce? [] (t.call.script config sealer t.entropy) t.held t.rest
  standing : ∀ t ∈ w.tasks, Standing w.locks t
  serial : Job.serial config sealer (w.log.map (·.1)) initial = (w.log.map (·.2), w.store)

/-- A store another running task can go on from, after `task` made a step: consistent, free of
the other task's nonce, and answering every read the other relied on as before. -/
def Keeps (config : Config) (sealer : Sealer) (w : World) (task : Task) (store : Store) :
    Prop :=
  store.Consistent ∧ ∀ t ∈ w.tasks, t.name ≠ task.name → store.FreshFor t.nonce? ∧
    Script.Trace store t.nonce? [] (t.call.script config sealer t.entropy) t.held t.rest

namespace Inv

variable {config : Config} {sealer : Sealer} {jobs : List Job} {initial : Store} {w : World}
  (inv : w.Inv config sealer jobs initial)
include inv

theorem unique {a b : Task} (memA : a ∈ w.tasks) (memB : b ∈ w.tasks) (same : a.name = b.name) :
    a = b :=
  List.inj_on_of_nodup_map (List.nodup_append.mp inv.names).2.1 memA memB same

theorem held_apart {a b : Task} (memA : a ∈ w.tasks) (memB : b ∈ w.tasks)
    (distinct : a.name ≠ b.name) {id : CardId} (heldA : id ∈ a.held) : id ∉ b.held := by
  intro heldB
  obtain ⟨ra, memRa, nameA, ownsA⟩ := (inv.standing a memA).holds heldA
  obtain ⟨rb, memRb, nameB, ownsB⟩ := (inv.standing b memB).holds heldB
  exact inv.sound.exclusive memRa memRb (by rw [nameA, nameB]; exact distinct) ownsA ownsB

theorem keeps_store (task : Task) : Keeps config sealer w task w.store :=
  ⟨inv.consistent, fun t mem _ => ⟨inv.fresh t mem, inv.traced t mem⟩⟩

theorem keeps_write (apart : Job.NoncesApart jobs) {task : Task} (mem : task ∈ w.tasks)
    {γ : Type} {r : Request γ} (allowed : r.Allowed task.held task.nonce?) :
    Keeps config sealer w task (r.perform w.store).2 := by
  refine ⟨?_, fun t other distinct => ?_⟩
  · rw [Request.perform_snd]
    exact StoreCall.consistent_result _ inv.consistent
  have nonces : ∀ n, t.nonce? = some n → task.nonce? ≠ some n :=
    apart t.toJob (inv.running t other) task.toJob (inv.running task mem) distinct
  refine ⟨Request.freshFor_of_allowed inv.consistent allowed (inv.fresh t other) nonces, ?_⟩
  refine (inv.traced t other).transfer (List.nil_subset _) fun q o relied answered => ?_
  exact Request.perform_of_protected inv.consistent allowed relied answered
    (fun id mine => inv.held_apart other mem distinct mine) nonces

/-! ### One step keeps the invariant -/

theorem finish {task : Task} (mem : task ∈ w.tasks) {result : Outcome Reply} {store : Store}
    {locks : LockTable}
    (ran : (task.call.script config sealer task.entropy).run w.store = (result, store))
    (keeps : Keeps config sealer w task store) (sound : locks.Sound)
    (others : ∀ n ≠ task.name, locks.find? n = w.locks.find? n) :
    (w.finish task result store locks).Inv config sealer jobs initial where
  consistent := keeps.1
  sound := sound_dropGuard sound task.name
  known := by
    intro d logged
    simp only [World.finish, List.mem_append, List.mem_singleton] at logged
    rcases logged with old | rfl
    · exact inv.known d old
    · exact inv.running task mem
  running := fun t kept => inv.running t (mem_filter_name.mp kept).1
  names := by
    have moved := nodup_finish inv.names (List.mem_map_of_mem mem)
    simpa [World.finish, List.filter_map, Function.comp_def] using moved
  fresh := fun t kept => (keeps.2 t (mem_filter_name.mp kept).1 (mem_filter_name.mp kept).2).1
  traced := fun t kept => (keeps.2 t (mem_filter_name.mp kept).1 (mem_filter_name.mp kept).2).2
  standing := by
    intro t kept
    obtain ⟨old, other⟩ := mem_filter_name.mp kept
    exact (inv.standing t old).congr (by rw [World.finish, find?_dropGuard other, others _ other])
  serial := by
    simp only [World.finish, List.map_append, List.map_cons, List.map_nil]
    rw [Job.serial_append, inv.serial]
    obtain ⟨first, second⟩ :=
      Call.agrees task.call { store := w.store, sealer, config, entropy := task.entropy }
    simp only at first second
    rw [ran] at first second
    simp [first, second]

theorem move {task : Task} (mem : task ∈ w.tasks) {rest : Script Reply} {held : List CardId}
    {locks : LockTable} (trace : Script.Trace w.store task.nonce? task.held task.rest held rest)
    (sound : locks.Sound) (standing : Standing locks { task with rest, held })
    (others : ∀ n ≠ task.name, locks.find? n = w.locks.find? n) :
    ({ w with locks, tasks := place w.tasks { task with rest, held } } : World).Inv config sealer
      jobs initial where
  consistent := inv.consistent
  sound := sound
  known := inv.known
  running := by
    intro t placed
    rcases mem_place placed with rfl | ⟨old, -⟩
    · exact inv.running task mem
    · exact inv.running t old
  names := by simpa using inv.names
  fresh := by
    intro t placed
    rcases mem_place placed with rfl | ⟨old, -⟩
    · exact inv.fresh task mem
    · exact inv.fresh t old
  traced := by
    intro t placed
    rcases mem_place placed with rfl | ⟨old, -⟩
    · exact (inv.traced task mem).trans trace
    · exact inv.traced t old
  standing := by
    intro t placed
    rcases mem_place placed with rfl | ⟨old, other⟩
    · exact standing
    · exact (inv.standing t old).congr (others t.name other)
  serial := inv.serial

theorem relock {locks : LockTable} (sound : locks.Sound)
    (standing : ∀ t ∈ w.tasks, Standing locks t) :
    ({ w with locks } : World).Inv config sealer jobs initial :=
  { inv with sound, standing }

theorem cancel {task : Task} : (w.cancel task).Inv config sealer jobs initial where
  consistent := inv.consistent
  sound := sound_dropGuard inv.sound task.name
  known := inv.known
  running := fun t kept => inv.running t (mem_filter_name.mp kept).1
  names := inv.names.sublist (List.Sublist.append_left
    ((List.filter_sublist).map _) _)
  fresh := fun t kept => inv.fresh t (mem_filter_name.mp kept).1
  traced := fun t kept => inv.traced t (mem_filter_name.mp kept).1
  standing := by
    intro t kept
    obtain ⟨old, other⟩ := mem_filter_name.mp kept
    exact (inv.standing t old).congr (find?_dropGuard other)
  serial := inv.serial

theorem resume (apart : Job.NoncesApart jobs) {task : Task} (mem : task ∈ w.tasks) :
    (w.resume task).Inv config sealer jobs initial := by
  have trace := inv.traced task mem
  -- the task reached its point alone on the current store, so its step is safe: a write
  -- returns at once, a read it goes on from left the store as it was, and only a task that
  -- holds nothing takes a guard
  have safe := Call.safe task.call config sealer task.entropy w.store inv.consistent
    (inv.fresh task mem) task.held task.rest trace
  unfold World.resume
  cases point : task.rest with
  | done result =>
    have ran : (task.call.script config sealer task.entropy).run w.store = (result, w.store) := by
      rw [trace.run_eq, point, Script.run_done]
    exact inv.finish mem ran (inv.keeps_store task) inv.sound fun _ _ => rfl
  | call r next =>
    dsimp only
    rw [point] at safe trace
    obtain ⟨allowed, answered⟩ := safe
    by_cases returns : ∃ result, next (r.perform w.store).1 = .done result
    · obtain ⟨result, returned⟩ := returns
      have ran : (task.call.script config sealer task.entropy).run w.store =
          (result, (r.perform w.store).2) := by
        rw [trace.run_eq, Script.run_call, returned, Script.run_done]
      rw [returned]
      exact inv.finish mem ran (inv.keeps_write apart mem allowed) inv.sound fun _ _ => rfl
    · -- going on, the task made a read it relies on
      obtain ⟨same, relied⟩ := answered.resolve_left returns
      rw [reach_of_going (fun result returned => returns ⟨result, returned⟩), same]
      have performed : r.perform w.store = ((r.perform w.store).1, w.store) := Prod.ext rfl same
      have standing := (inv.standing task mem).keep (by simp [point]) (next (r.perform w.store).1)
      exact inv.move mem (by rw [point]; exact .call performed relied (.refl _ _)) inv.sound
        standing fun _ _ => rfl
  | lock g next =>
    dsimp only
    rw [point] at safe trace
    have empty : task.held = [] := safe
    have asked : w.locks.find? task.name = none ∨
        ∃ r, w.locks.find? task.name = some r ∧ r.ids = g.ids := by
      cases inv.standing task mem with
      | idle _ missing => exact .inl missing
      | waiting _ waits found ids =>
        rw [point] at waits
        injection waits with sameGuard
        exact .inr ⟨_, found, sameGuard ▸ ids⟩
      | holding nonempty => exact absurd empty nonempty
    obtain ⟨locks, r, stepped, found, ids⟩ := acquire_spec asked
    have sound := inv.sound.step stepped
    have others : ∀ n ≠ task.name, locks.find? n = w.locks.find? n :=
      fun n other => LockTable.find?_step_of_ne stepped (by simpa using other)
    simp only [stepped, found, Option.any_some]
    split
    · rename_i complete
      -- handed all the guard's cards, the task holds them and goes on
      by_cases returns : ∃ result, next = .done result
      · obtain ⟨result, rfl⟩ := returns
        have ran : (task.call.script config sealer task.entropy).run w.store =
            (result, w.store) := by
          rw [trace.run_eq, Script.run_lock, Script.run_done]
        exact inv.finish mem ran (inv.keeps_store task) sound others
      · have reached : Script.Trace w.store task.nonce? task.held task.rest g.ids next := by
          rw [point, empty]
          exact .lock (.refl _ _)
        rw [reach_of_going fun result returned => returns ⟨result, returned⟩]
        exact inv.move mem reached sound (.holding (Guard.ids_ne_nil g) found ids complete) others
    · -- still waiting: only the task's own request changed
      refine inv.relock sound fun t member => ?_
      by_cases same : t.name = task.name
      · rw [inv.unique member mem same]
        exact .waiting empty point found ids
      · exact (inv.standing t member).congr (others t.name same)

theorem apply (apart : Job.NoncesApart jobs) (event : Event) :
    (w.apply event).Inv config sealer jobs initial := by
  cases event with
  | step name =>
    simp only [World.apply]
    split
    · rename_i task found
      exact inv.resume apart (List.mem_of_find?_eq_some found)
    · exact inv
  | cancel name =>
    simp only [World.apply]
    split
    · exact inv.cancel
    · exact inv

end Inv

theorem Inv.run {config : Config} {sealer : Sealer} {jobs : List Job} {initial : Store}
    {w : World} (inv : w.Inv config sealer jobs initial) (apart : Job.NoncesApart jobs)
    (events : List Event) : (w.run events).Inv config sealer jobs initial := by
  induction events generalizing w with
  | nil => exact inv
  | cons event rest ih => exact ih (inv.apply apart event)

theorem inv_start {config : Config} {sealer : Sealer} {store : Store} {jobs : List Job}
    (consistent : store.Consistent) (names : (jobs.map (·.name)).Nodup)
    (fresh : ∀ j ∈ jobs, store.FreshFor j.nonce?) :
    (start config sealer store jobs).Inv config sealer jobs store where
  consistent := consistent
  sound := ⟨List.nodup_nil, fun r mem => by simp [start] at mem⟩
  known := by simp [start]
  running := by
    intro t mem
    obtain ⟨j, member, rfl⟩ := List.mem_map.mp mem
    exact member
  names := by simpa [start, Function.comp_def] using names
  fresh := by
    intro t mem
    obtain ⟨j, member, rfl⟩ := List.mem_map.mp mem
    exact fresh j member
  traced := by
    intro t mem
    obtain ⟨j, member, rfl⟩ := List.mem_map.mp mem
    exact .refl _ _
  standing := by
    intro t mem
    obtain ⟨j, member, rfl⟩ := List.mem_map.mp mem
    exact .idle rfl rfl
  serial := rfl

/-- Serializability: whatever the schedule and whatever is cancelled, the calls that returned
are started jobs, each once, and running them one at a time in the order they returned gives
each the result it returned and leaves the store as it is. -/
theorem run_serial (config : Config) (sealer : Sealer) (store : Store) (jobs : List Job)
    (events : List Event) (consistent : store.Consistent) (names : (jobs.map (·.name)).Nodup)
    (apart : Job.NoncesApart jobs) (fresh : ∀ j ∈ jobs, store.FreshFor j.nonce?) :
    let w := (start config sealer store jobs).run events
    (∀ d ∈ w.log, d.1 ∈ jobs) ∧ (w.log.map (·.1.name)).Nodup ∧
      Job.serial config sealer (w.log.map (·.1)) store = (w.log.map (·.2), w.store) := by
  intro w
  have inv : w.Inv config sealer jobs store := (inv_start consistent names fresh).run apart events
  exact ⟨inv.known, (List.nodup_append.mp inv.names).1, inv.serial⟩

/-- Two issues and a total started together over a store that already holds a sealed number:
each issue draws a nonce of its own, and neither nonce is the stored number's. -/
theorem run_serial_two_issues_beside_total :
    let key : List UInt8 := List.replicate 32 7
    let sealer : Sealer := ⟨Aes.schedule key.toArray⟩
    let expiry : Expiry := ⟨12, 30, by decide, by decide, by decide⟩
    let card := Card.issue (Uuid.ofNat 7) (Uuid.ofNat 1) ⟨"4111111111111111"⟩ expiry
      ⟨1000, by decide⟩
    let blob : Blob := ⟨Base64.encode (List.replicate 12 0 ++
      Gcm.encrypt sealer.roundKeys (List.replicate 12 0) "4111111111111111".toUTF8.toList)⟩
    let store := StoreCall.runAll [.insert card blob] (Store.empty sealer)
    let admin : Identity := ⟨Uuid.ofNat 2, .admin⟩
    let first : Job :=
      ⟨"first", .issueCard admin (Uuid.ofNat 1) expiry Balance.zero, { word := fun _ => (1 : UInt64) <<< 56 }⟩
    let total : Job := ⟨"total", .getTotalBalance ⟨Uuid.ofNat 1, .user⟩, Entropy.initial⟩
    let second : Job :=
      ⟨"second", .issueCard admin (Uuid.ofNat 1) expiry Balance.zero, { word := fun _ => (2 : UInt64) <<< 56 }⟩
    let w := (start {} sealer store [first, total, second]).run
      [.step "first", .step "total", .step "second", .step "second", .step "first"]
    Sealer.ofKey key = .ok sealer ∧ store.Consistent ∧
      ([first, total, second].map (·.name)).Nodup ∧ Job.NoncesApart [first, total, second] ∧
      (∀ j ∈ [first, total, second], store.FreshFor j.nonce?) ∧
      ((∀ d ∈ w.log, d.1 ∈ [first, total, second]) ∧ (w.log.map (·.1.name)).Nodup ∧
        Job.serial {} sealer (w.log.map (·.1)) store = (w.log.map (·.2), w.store)) := by
  intro key sealer expiry card blob store admin first total second w
  have sealed : sealer.sealWithNonce (List.replicate 12 0) "4111111111111111" = some blob :=
    sealer.sealWithNonce_of_ne_empty (by simp)
  have stored : blob.nonce = some (List.replicate 12 0) := sealer.nonce_sealWithNonce rfl sealed
  have consistent : store.Consistent :=
    StoreCall.consistent_runAll _ (Store.consistent_empty sealer)
  have names : ([first, total, second].map (·.name)).Nodup := by simp [first, total, second]
  have drawn₁ : first.nonce? = some (List.replicate 12 1) := by decide
  have drawn₂ : second.nonce? = some (List.replicate 12 2) := by decide
  have quiet : total.nonce? = none := rfl
  have apart : Job.NoncesApart [first, total, second] := by
    intro a ha b hb differ n drawn
    simp only [List.mem_cons, List.not_mem_nil, or_false] at ha hb
    rcases ha with rfl | rfl | rfl <;> rcases hb with rfl | rfl | rfl <;>
      simp_all
  -- the one stored blob carries nonce zero, which neither issue draws
  have fresh : ∀ j ∈ [first, total, second], store.FreshFor j.nonce? := by
    have seededFresh : ∀ k : UInt8, k ≠ 0 → store.FreshFor (some (List.replicate 12 k)) :=
      fun k nonzero => Store.freshFor_seeded sealer [(card, blob)] (by simp) (by simp)
        (by simp [stored, nonzero.symm])
    intro j member
    simp only [List.mem_cons, List.not_mem_nil, or_false] at member
    rcases member with rfl | rfl | rfl
    · exact drawn₁ ▸ seededFresh 1 (by decide)
    · rw [quiet]
      rintro n ⟨⟩
    · exact drawn₂ ▸ seededFresh 2 (by decide)
  exact ⟨Sealer.ofKey_of_length rfl, consistent, names, apart, fresh,
    run_serial {} sealer store [first, total, second] _ consistent names apart fresh⟩

end World

end CardLedger
