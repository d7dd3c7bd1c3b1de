import CardLedger.Error

/-!
# Card lifecycle

A card is active, blocked or expired. Only an active card moves money. Callers act as a user or
as an admin. The status rules:

* nobody sets a card to expired, and nobody activates an expired card;
* an admin may block an expired card, its owner may not;
* asking for the status a card already has changes nothing;
* anyone may block an active card, only an admin may activate a blocked one.

Main statements: `transition_expired`, `transition_changed_ne` (a change always changes the
status) and `transition_user_activate` (a user never activates).
-/

namespace CardLedger

/-- Where a card is in its life. -/
inductive Status where
  | active
  | blocked
  | expired
deriving DecidableEq, Repr

namespace Status

/-- The lowercase name. -/
def name : Status → String
  | active => "active"
  | blocked => "blocked"
  | expired => "expired"

instance : ToString Status := ⟨name⟩

/-- The status of a lowercase name. -/
def ofName? : String → Option Status
  | "active" => some active
  | "blocked" => some blocked
  | "expired" => some expired
  | _ => none

def allowsFundsMovement (s : Status) : Bool := s == active

end Status

/-- The role a caller acts in. -/
inductive Role where
  | user
  | admin
deriving DecidableEq, Repr

namespace Role

def name : Role → String
  | user => "user"
  | admin => "admin"

def ofName? : String → Option Role
  | "user" => some user
  | "admin" => some admin
  | _ => none

end Role

/-- Who is calling: an owner identifier and a role. -/
structure Identity where
  id : OwnerId
  role : Role

namespace Identity

def isAdmin (who : Identity) : Bool := who.role == .admin

def requireAdmin (who : Identity) (operation : String) : Outcome Unit :=
  if who.isAdmin then .ok () else .error (.forbidden (operation ++ " requires the admin role"))

end Identity

/-- The effect of a permitted status request. -/
inductive Transition where
  | changed (status : Status)
  | unchanged
deriving DecidableEq, Repr

namespace Status

/-- The outcome of asking to move a card from `current` to `target` in `role`. -/
def transition (current target : Status) (role : Role) : Outcome Transition :=
  match current, target, role with
  | _, expired, _ => .error (.invalidTransition "Status cannot be set to expired manually")
  | expired, active, _ => .error (.invalidTransition "Cannot activate an expired card")
  | expired, blocked, .admin => .ok (.changed blocked)
  | expired, blocked, .user =>
    .error (.operationConflict "Only an active card can be blocked by its owner")
  | active, active, _ => .ok .unchanged
  | blocked, blocked, _ => .ok .unchanged
  | active, blocked, _ => .ok (.changed blocked)
  | blocked, active, .admin => .ok (.changed active)
  | blocked, active, .user => .error (.forbidden "Only an admin can activate a card")

theorem transition_expired (current : Status) (role : Role) :
    transition current expired role =
      .error (.invalidTransition "Status cannot be set to expired manually") := by
  cases current <;> cases role <;> rfl

theorem transition_changed_ne {current target s : Status} {role : Role}
    (h : transition current target role = .ok (.changed s)) : s = target ∧ s ≠ current := by
  cases current <;> cases target <;> cases role <;> simp [transition] at h <;> subst h <;> decide

theorem transition_user_activate (current : Status) :
    transition current active .user ≠ .ok (.changed active) := by
  cases current <;> simp [transition]

end Status

end CardLedger
