import CardLedger.Uuid

/-!
# Row locks over cards

A lock table keeps one first-in-first-out mutex per card identifier, created on first use.
Named requests take locks and give them back:

* `lock` asks for one card's mutex.
* `lockPair` asks for two cards' mutexes, the smaller identifier first, so that two pairs over
  the same cards never wait on each other in a cycle; a pair of equal identifiers asks once.
  The second mutex is looked up only once the first is held.
* `poll` lets a waiting request take what it was handed since.
* `release` gives back what a request holds, or withdraws it while it waits.

A released mutex is handed straight to its first waiter, which counts as holding it from then on
(it shows as waiting until it is polled). A withdrawn waiter that was already handed the mutex
passes it on.

Entries are counted by `tracked`. An entry is dropped only when a guard is given back and no
request holds or waits on that card any more. A pair has its guard from the start, so even a
withdrawn pair drops the entries it leaves unused, after it withdrew from the mutex it waited
on. A single `lock` has no guard until it holds its mutex: withdrawing it while it waits leaves
the entry in the table.
-/

namespace CardLedger

/-- The mutex of one card: who holds it (or was handed it) and who waits, first in line first. -/
structure LockEntry where
  id : Uuid
  owner : Option String := none
  queue : List String := []

/-- A named request: the cards it locks in order, how many of them it holds, and whether it is
a pair (a pair has its guard from the start). -/
structure LockRequest where
  name : String
  ids : List Uuid
  held : Nat := 0
  pair : Bool

namespace LockRequest

def complete (r : LockRequest) : Bool := r.held ≥ r.ids.length

def touched (r : LockRequest) : List Uuid := r.ids.take (r.held + 1)

def waitingOn (r : LockRequest) : Option Uuid := r.ids[r.held]?

def guarded (r : LockRequest) : Bool := r.pair || r.complete

end LockRequest

/-- The lock table and the live requests, oldest first. -/
structure LockTable where
  entries : List LockEntry := []
  requests : List LockRequest := []

/-- A step asked of the lock table. -/
inductive LockStep where
  | lock (slot : String) (id : Uuid)
  | lockPair (slot : String) (a b : Uuid)
  | poll (slot : String)
  | release (slot : String)

/-- A step that names its request wrongly. -/
inductive LockFault where
  | noSuchSlot
  | slotInUse (slot : String)

def LockFault.message : LockFault → String
  | .noSuchSlot => "no such slot"
  | .slotInUse slot => "slot '" ++ slot ++ "' in use"

/-- What a step leaves: each live request and whether it holds all its cards, and the number of
entries. -/
structure LockSnapshot where
  slots : List (String × Bool)
  tracked : Nat

namespace LockTable

def tracked (t : LockTable) : Nat := t.entries.length

def entry? (t : LockTable) (id : Uuid) : Option LockEntry := t.entries.find? (·.id == id)

def owner? (t : LockTable) (id : Uuid) : Option String := (t.entry? id).bind (·.owner)

def modifyEntry (t : LockTable) (id : Uuid) (f : LockEntry → LockEntry) : LockTable :=
  { t with entries := t.entries.map fun e => if e.id == id then f e else e }

def ensure (t : LockTable) (id : Uuid) : LockTable :=
  if (t.entry? id).isSome then t else { t with entries := t.entries ++ [{ id }] }

/-- Asks for a card's mutex: taken when free, else queued. -/
def ask (t : LockTable) (name : String) (id : Uuid) : LockTable :=
  (t.ensure id).modifyEntry id fun e =>
    match e.owner with
    | none => { e with owner := some name }
    | some _ => { e with queue := e.queue ++ [name] }

def giveBack (t : LockTable) (id : Uuid) : LockTable :=
  t.modifyEntry id fun e => { e with owner := e.queue.head?, queue := e.queue.tail }

/-- Withdraws a request from a card's mutex: passes the mutex on if it was handed over,
else leaves the line. -/
def withdraw (t : LockTable) (name : String) (id : Uuid) : LockTable :=
  if t.owner? id = some name then t.giveBack id
  else t.modifyEntry id fun e => { e with queue := e.queue.erase name }

/-- Lets a request take the mutexes it was handed, asking for the next one each time. -/
def advance (t : LockTable) (r : LockRequest) : Nat → LockTable × LockRequest
  | 0 => (t, r)
  | fuel + 1 =>
    match r.waitingOn with
    | none => (t, r)
    | some id =>
      if t.owner? id = some r.name then
        let r' := { r with held := r.held + 1 }
        match r'.waitingOn with
        | none => (t, r')
        | some next => advance (t.ask r.name next) r' fuel
      else (t, r)

def inUse (t : LockTable) (id : Uuid) : Bool := t.requests.any fun r => r.touched.contains id

def dropUnused (t : LockTable) (id : Uuid) : LockTable :=
  if t.inUse id then t else { t with entries := t.entries.filter (·.id != id) }

def update (t : LockTable) (r : LockRequest) : LockTable :=
  { t with requests := t.requests.map fun x => if x.name == r.name then r else x }

def find? (t : LockTable) (name : String) : Option LockRequest := t.requests.find? (·.name == name)

/-- Starts a request and lets it take what it can. -/
def start (t : LockTable) (r : LockRequest) : LockTable :=
  match r.waitingOn with
  | none => { t with requests := t.requests ++ [r] }
  | some first =>
    let t := { t.ask r.name first with requests := t.requests ++ [r] }
    let (t, r) := t.advance r r.ids.length
    t.update r

/-- Ends a request: it withdraws from the mutex it waits on; then, if it has a guard, it gives
back the mutexes it holds in order and drops the entries of its cards that nobody uses. -/
def finish (t : LockTable) (r : LockRequest) : LockTable :=
  let t := { t with requests := t.requests.filter (·.name != r.name) }
  let t := match r.waitingOn with
    | some id => t.withdraw r.name id
    | none => t
  if r.guarded then
    let t := (r.ids.take r.held).foldl giveBack t
    r.ids.foldl dropUnused t
  else t

def pairIds (a b : Uuid) : List Uuid :=
  if a = b then [a] else if a.bits ≤ b.bits then [a, b] else [b, a]

/-- Runs one step. -/
def step (t : LockTable) : LockStep → Except LockFault LockTable
  | .lock slot id =>
    if (t.find? slot).isSome then .error (.slotInUse slot)
    else .ok (t.start { name := slot, ids := [id], pair := false })
  | .lockPair slot a b =>
    if (t.find? slot).isSome then .error (.slotInUse slot)
    else .ok (t.start { name := slot, ids := pairIds a b, pair := true })
  | .poll slot =>
    match t.find? slot with
    | none => .error .noSuchSlot
    | some r =>
      let (t, r) := t.advance r r.ids.length
      .ok (t.update r)
  | .release slot =>
    match t.find? slot with
    | none => .error .noSuchSlot
    | some r => .ok (t.finish r)

def snapshot (t : LockTable) : LockSnapshot :=
  { slots := t.requests.map fun r => (r.name, r.complete), tracked := t.tracked }

/-- Ends every live request, in increasing order of name. -/
def finishAll (t : LockTable) : LockTable :=
  let names := (t.requests.map (·.name)).mergeSort fun a b => decide (a ≤ b)
  names.foldl (fun t name => match t.find? name with
    | some r => t.finish r
    | none => t) t

/-- Runs steps from an empty table: what each step leaves, and the number of entries once
every request left is ended. -/
def run (steps : List LockStep) : Except LockFault (List LockSnapshot × Nat) := do
  let (t, shots) ← steps.foldlM (fun (acc : LockTable × List LockSnapshot) s => do
      let t ← acc.1.step s
      pure (t, t.snapshot :: acc.2)) (({} : LockTable), [])
  pure (shots.reverse, t.finishAll.tracked)

example : (({} : LockTable).step (.lock "a" (Uuid.ofNat 1))).toOption.map tracked = some 1 := by
  decide +kernel

end LockTable

end CardLedger
