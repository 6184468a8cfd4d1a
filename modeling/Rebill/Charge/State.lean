/-!
# The life of a charge attempt

An attempt to charge a stored method is in one of seven states. `ChargeState.allows` is the table
of moves: who may move an attempt from one state to another. Staying in the same state is always
allowed. The system drives the results of the gateway (charged, pending, failed, stopped by the
system) and puts a failed attempt back in the queue; a user may stop an active or failed attempt
and take back a user stop; an administrator may stop an active or failed attempt. Nothing leaves
`charged`, `systemStop` or `adminStop`.
-/

namespace Rebill

/-- The state of a charge attempt. -/
inductive ChargeState where
  | active
  | pending
  | charged
  | chargeFailed
  | systemStop
  | userStop
  | adminStop
deriving DecidableEq, Repr, Inhabited

/-- Who asks for a move. -/
inductive Actor where
  | user
  | admin
  | system
deriving DecidableEq, Repr, Inhabited

namespace ChargeState

def name : ChargeState → String
  | .active => "active"
  | .pending => "pending"
  | .charged => "charged"
  | .chargeFailed => "charge_failed"
  | .systemStop => "system_stop"
  | .userStop => "user_stop"
  | .adminStop => "admin_stop"

def ofName? : String → Option ChargeState
  | "active" => some .active
  | "pending" => some .pending
  | "charged" => some .charged
  | "charge_failed" => some .chargeFailed
  | "system_stop" => some .systemStop
  | "user_stop" => some .userStop
  | "admin_stop" => some .adminStop
  | _ => none

def isStop : ChargeState → Bool
  | .systemStop | .userStop | .adminStop => true
  | _ => false

/-- The moves between different states, and who may make each. -/
def step : ChargeState → ChargeState → Actor → Bool
  | .active, .charged, .system => true
  | .active, .pending, .system => true
  | .active, .chargeFailed, .system => true
  | .active, .systemStop, .system => true
  | .active, .userStop, .user => true
  | .active, .adminStop, .admin => true
  | .pending, .charged, .system => true
  | .pending, .chargeFailed, .system => true
  | .chargeFailed, .active, .system => true
  | .chargeFailed, .userStop, .user => true
  | .chargeFailed, .adminStop, .admin => true
  | .userStop, .active, .user => true
  | _, _, _ => false

/-- Whether `actor` may move an attempt from `s` to `t`: staying is always allowed. -/
def allows (s t : ChargeState) (actor : Actor) : Bool :=
  s == t || step s t actor

end ChargeState

namespace Actor

def name : Actor → String
  | .user => "user"
  | .admin => "admin"
  | .system => "system"

def ofName? : String → Option Actor
  | "user" => some .user
  | "admin" => some .admin
  | "system" => some .system
  | _ => none

end Actor

end Rebill
