import Rebill.Error

/-!
# The in-process lock table

The lock that serves a single process keeps a table from keys to slots, and a slot is a mutex
with the count of references to it. `acquire` looks its key up under the table's own mutex,
making a slot when there is none, and keeps a reference to it; it then waits for the slot's
mutex under a timer and fails with `lockTimeout` when the timer fires first. `release` lets the
mutex go and then, under the table's mutex again, forgets the key when the table's reference to
its slot is the only one left.

A `LockTable` is the table, its slots and the calls made on the lock, numbered in the order they
began. Each call stands at one of the points between the lock's atomic actions (`Call`), and a
`LockStep` is one such action of one call. Calls on several threads run their actions in any
interleaving:
- `acquire key ms` begins a call: the lookup and the new reference, in one critical section of
  the table;
- `lockOwned c`: the call's first poll of the mutex takes it when it is free, and queues
  otherwise;
- `timerFires c`: the call's timer fired while the call still waited: its poll saw the mutex
  taken and then the timer elapsed;
- `dropFuture c`: the timed-out call drops its wait: it leaves the line, passes the mutex on if it
  was handed it in the meantime, drops its reference and returns `lockTimeout`;
- `dropGuard c`: `release` lets the mutex go and drops the lease's reference;
- `forget c`: `release` takes the table's mutex and removes the key when its slot counts one
  reference.

The slots' mutexes are the runtime's, and the lock relies on what the runtime documents of them,
which `Mutex` states as laws: a poll takes a free mutex and otherwise joins the end of the line;
a mutex let go while calls wait is handed straight to the first in line; a call that drops its
wait leaves the line, and passes the mutex on if it was handed it in the meantime. The lock table
is stated for every mutex that keeps these laws, and `Mutex.fifo` is one. A waiting call that is
handed the mutex holds the lease from then on, since its next poll can only return it; a call
whose timer has already fired keeps the mutex only until it drops its wait.
-/

namespace Rebill

/-- A mutex of the runtime, for calls numbered in the order they began: its state, the call it is
granted to, the calls waiting for it in line, and what a call can do with it. The laws are what
the runtime documents: the mutex is fair, serving calls in the order they asked for it. -/
structure Mutex where
  State : Type
  new : State
  owner : State → Option Nat
  line : State → List Nat
  /-- A call's first poll. -/
  poll : State → Nat → State
  /-- The call the mutex is granted to lets it go. -/
  unlock : State → State
  /-- A call drops its wait. -/
  cancel : State → Nat → State
  owner_new : owner new = none
  line_new : line new = []
  /-- A poll takes a free mutex. -/
  poll_free : ∀ m c, owner m = none → owner (poll m c) = some c ∧ line (poll m c) = line m
  /-- A poll of a taken mutex joins the end of the line. -/
  poll_taken : ∀ m c d, owner m = some d →
    owner (poll m c) = some d ∧ line (poll m c) = line m ++ [c]
  /-- A mutex let go is handed to the first call in line, and is free when none waits. -/
  unlock_hands_on : ∀ m, owner (unlock m) = (line m).head? ∧ line (unlock m) = (line m).tail
  /-- A call that drops its wait leaves the line. -/
  cancel_waiting : ∀ m c, owner m ≠ some c →
    owner (cancel m c) = owner m ∧ line (cancel m c) = (line m).erase c
  /-- A call that drops its wait after it was handed the mutex passes it on down the line. -/
  cancel_granted : ∀ m c, owner m = some c →
    owner (cancel m c) = ((line m).erase c).head? ∧ line (cancel m c) = ((line m).erase c).tail

/-- The mutex the laws describe: who has it and who waits, first come first served. -/
def Mutex.fifo : Mutex where
  State := Option Nat × List Nat
  new := (none, [])
  owner m := m.1
  line m := m.2
  poll m c := match m.1 with
    | none => (some c, m.2)
    | some d => (some d, m.2 ++ [c])
  unlock m := (m.2.head?, m.2.tail)
  cancel m c :=
    if m.1 = some c then ((m.2.erase c).head?, (m.2.erase c).tail) else (m.1, m.2.erase c)
  owner_new := rfl
  line_new := rfl
  poll_free _ _ h := by simp [h]
  poll_taken _ _ _ h := by simp [h]
  unlock_hands_on _ := ⟨rfl, rfl⟩
  cancel_waiting _ _ h := by simp [h]
  cancel_granted _ _ h := by simp [h]

/-- A slot of the table: the count of references to it, and its mutex. -/
structure Slot (M : Mutex) where
  refs : Nat := 0
  mutex : M.State := M.new

namespace Slot

variable {M : Mutex}

def owner (x : Slot M) : Option Nat := M.owner x.mutex

/-- The calls waiting for a slot's mutex, first come first served. -/
def queue (x : Slot M) : List Nat := M.line x.mutex

@[simp] theorem owner_mk (r : Nat) (m : M.State) :
    ({ refs := r, mutex := m } : Slot M).owner = M.owner m := rfl

@[simp] theorem queue_mk (r : Nat) (m : M.State) :
    ({ refs := r, mutex := m } : Slot M).queue = M.line m := rfl

end Slot

/-- Where a call on the lock stands. -/
inductive Call where
  /-- It looked its key up and holds a reference to the key's slot. -/
  | cloned (key : String) (ms : Nat) (slot : Nat)
  /-- It waits in line for the slot's mutex. -/
  | waiting (key : String) (ms : Nat) (slot : Nat)
  /-- Its timer fired while it waited; it still holds its reference and its place in line. -/
  | expired (key : String) (ms : Nat) (slot : Nat)
  /-- It holds the lease: the slot's mutex, through a reference of its own. -/
  | holding (key : String) (slot : Nat)
  /-- `release` let the mutex go and dropped the reference; the table's check is next. -/
  | releasing (key : String)
  /-- `release` returned. -/
  | released (key : String)
  /-- `acquire` returned an error. -/
  | failed (err : BillingError)
deriving Repr, DecidableEq, Inhabited

namespace Call

/-- The key and the slot of the reference a call holds, while it holds one. -/
def clone? : Call → Option (String × Nat)
  | .cloned key _ s | .waiting key _ s | .expired key _ s | .holding key s => some (key, s)
  | _ => none

def slot? (x : Call) : Option Nat := x.clone?.map Prod.snd

/-- What a call in line becomes when it is handed the mutex: a waiting call holds the lease, and
one whose timer fired stays as it is until it drops its wait. -/
def granted : Call → Call
  | .waiting key _ s => .holding key s
  | x => x

@[simp] theorem clone?_granted (x : Call) : x.granted.clone? = x.clone? := by
  cases x <;> rfl

@[simp] theorem slot?_granted (x : Call) : x.granted.slot? = x.slot? := by
  simp [slot?]

end Call

/-- The lock, over mutexes of the runtime: its table from keys to slots, the slots, the next slot
to make, and the calls made on it. -/
structure LockTable (M : Mutex) where
  table : String → Option Nat := fun _ => none
  slots : Nat → Slot M := fun _ => {}
  fresh : Nat := 0
  calls : List Call := []

/-- The actions of the calls on the lock. -/
inductive LockStep where
  | acquire (key : String) (ms : Nat)
  | lockOwned (c : Nat)
  | timerFires (c : Nat)
  | dropFuture (c : Nat)
  | dropGuard (c : Nat)
  | forget (c : Nat)
deriving Repr, DecidableEq

namespace LockTable

variable {M : Mutex} (σ : LockTable M)

def slot (s : Nat) : Slot M := σ.slots s

def call? (c : Nat) : Option Call := σ.calls[c]?

def users (s : Nat) : Nat := σ.calls.countP fun x => x.slot? == some s

def setSlot (s : Nat) (x : Slot M) : LockTable M :=
  { σ with slots := fun t => if t = s then x else σ.slots t }

def setMutex (s : Nat) (m : M.State) : LockTable M := σ.setSlot s { σ.slot s with mutex := m }

def setCall (c : Nat) (x : Call) : LockTable M := { σ with calls := σ.calls.set c x }

def setKey (key : String) (v : Option Nat) : LockTable M :=
  { σ with table := fun k => if k = key then v else σ.table k }

def retain (s : Nat) : LockTable M := σ.setSlot s { σ.slot s with refs := (σ.slot s).refs + 1 }

def unref (s : Nat) : LockTable M := σ.setSlot s { σ.slot s with refs := (σ.slot s).refs - 1 }

/-- The slot the table holds for a key; when there is none, a new slot is made and listed, with
the table's own reference. -/
def entry (key : String) : LockTable M × Nat :=
  match σ.table key with
  | some s => (σ, s)
  | none => ({ (σ.setKey key (some σ.fresh)).setSlot σ.fresh { refs := 1 } with
                fresh := σ.fresh + 1 }, σ.fresh)

/-- `acquire` begins: under the table's mutex it finds or makes the key's slot and takes a
reference to it. -/
def begin (key : String) (ms : Nat) : LockTable M :=
  let s := (σ.entry key).2
  { (σ.entry key).1.retain s with calls := σ.calls ++ [.cloned key ms s] }

def grant (d : Nat) : LockTable M :=
  match σ.call? d with
  | some x => σ.setCall d x.granted
  | none => σ

/-- The call a slot's mutex is granted to is woken: if it waited in line, it holds the lease. -/
def wake (s : Nat) : LockTable M :=
  match (σ.slot s).owner with
  | some d => σ.grant d
  | none => σ

/-- A slot's mutex is let go, to whichever call the mutex hands it. -/
def pass (s : Nat) : LockTable M := (σ.setMutex s (M.unlock (σ.slot s).mutex)).wake s

/-- A call's first poll of its slot's mutex: the call holds the lease when the poll took the
mutex, and waits in line otherwise. -/
def lockOwned (c : Nat) (key : String) (ms s : Nat) : LockTable M :=
  let τ := σ.setMutex s (M.poll (σ.slot s).mutex c)
  if (τ.slot s).owner = some c then τ.setCall c (.holding key s)
  else τ.setCall c (.waiting key ms s)

/-- A timed-out call drops its wait: it leaves the line, and the mutex, if it was handed it,
goes on; it drops its reference and fails. -/
def dropFuture (c : Nat) (key : String) (ms s : Nat) : LockTable M :=
  let τ := σ.setMutex s (M.cancel (σ.slot s).mutex c)
  let τ := if (σ.slot s).owner = some c then τ.wake s else τ
  (τ.unref s).setCall c (.failed (.lockTimeout key ms))

/-- `release` lets the mutex go and drops the lease's reference. -/
def dropGuard (c : Nat) (key : String) (s : Nat) : LockTable M :=
  ((σ.pass s).unref s).setCall c (.releasing key)

/-- Under the table's mutex, the key is forgotten when the table's reference is the only one its
slot counts. -/
def forgetKey (key : String) : LockTable M :=
  match σ.table key with
  | some s => if (σ.slot s).refs = 1 then (σ.unref s).setKey key none else σ
  | none => σ

/-- `release`'s check of the table, after which it returns. -/
def forget (c : Nat) (key : String) : LockTable M := (σ.forgetKey key).setCall c (.released key)

/-- One action of one call, when the call stands where the action happens. -/
def step : LockStep → Option (LockTable M)
  | .acquire key ms => some (σ.begin key ms)
  | .lockOwned c =>
    match σ.call? c with
    | some (.cloned key ms s) => some (σ.lockOwned c key ms s)
    | _ => none
  | .timerFires c =>
    match σ.call? c with
    | some (.waiting key ms s) => some (σ.setCall c (.expired key ms s))
    | _ => none
  | .dropFuture c =>
    match σ.call? c with
    | some (.expired key ms s) => some (σ.dropFuture c key ms s)
    | _ => none
  | .dropGuard c =>
    match σ.call? c with
    | some (.holding key s) => some (σ.dropGuard c key s)
    | _ => none
  | .forget c =>
    match σ.call? c with
    | some (.releasing key) => some (σ.forget c key)
    | _ => none

/-- The lock after a sequence of actions, when each of them can happen. -/
def run : LockTable M → List LockStep → Option (LockTable M)
  | σ, [] => some σ
  | σ, l :: ls => (σ.step l).bind fun τ => τ.run ls

def Reachable : Prop := ∃ ls, run {} ls = some σ

def Holds (c : Nat) (key : String) : Prop := ∃ s, σ.call? c = some (.holding key s)

/-- Call `c` is an acquire of the key that has not returned and does not hold the lease: it is
in line, or its timer fired and it has not dropped its wait. -/
def Waits (c : Nat) (key : String) : Prop :=
  ∃ ms s, σ.call? c = some (.waiting key ms s) ∨ σ.call? c = some (.expired key ms s)

/-- Call `c` holds a reference to slot `s`, taken for the key. -/
def Refers (c : Nat) (key : String) (s : Nat) : Prop :=
  (σ.call? c).bind Call.clone? = some (key, s)

/-! ## What each update changes -/

variable {σ}

@[simp] theorem slot_setSlot (s t : Nat) (x : Slot M) :
    (σ.setSlot s x).slot t = if t = s then x else σ.slot t := rfl

@[simp] theorem table_setSlot (s : Nat) (x : Slot M) : (σ.setSlot s x).table = σ.table := rfl

@[simp] theorem calls_setSlot (s : Nat) (x : Slot M) : (σ.setSlot s x).calls = σ.calls := rfl

@[simp] theorem fresh_setSlot (s : Nat) (x : Slot M) : (σ.setSlot s x).fresh = σ.fresh := rfl

@[simp] theorem slot_setMutex (s t : Nat) (m : M.State) :
    (σ.setMutex s m).slot t = if t = s then { σ.slot s with mutex := m } else σ.slot t := rfl

@[simp] theorem owner_setMutex (s t : Nat) (m : M.State) :
    ((σ.setMutex s m).slot t).owner = if t = s then M.owner m else (σ.slot t).owner := by
  simp only [slot_setMutex]
  split <;> rfl

@[simp] theorem queue_setMutex (s t : Nat) (m : M.State) :
    ((σ.setMutex s m).slot t).queue = if t = s then M.line m else (σ.slot t).queue := by
  simp only [slot_setMutex]
  split <;> rfl

@[simp] theorem refs_setMutex (s t : Nat) (m : M.State) :
    ((σ.setMutex s m).slot t).refs = (σ.slot t).refs := by
  simp only [slot_setMutex]
  split <;> simp_all

@[simp] theorem table_setMutex (s : Nat) (m : M.State) : (σ.setMutex s m).table = σ.table := rfl

@[simp] theorem calls_setMutex (s : Nat) (m : M.State) : (σ.setMutex s m).calls = σ.calls := rfl

@[simp] theorem fresh_setMutex (s : Nat) (m : M.State) : (σ.setMutex s m).fresh = σ.fresh := rfl

@[simp] theorem users_setMutex (s : Nat) (m : M.State) : (σ.setMutex s m).users = σ.users := rfl

@[simp] theorem slot_setCall (c t : Nat) (x : Call) : (σ.setCall c x).slot t = σ.slot t := rfl

@[simp] theorem table_setCall (c : Nat) (x : Call) : (σ.setCall c x).table = σ.table := rfl

@[simp] theorem fresh_setCall (c : Nat) (x : Call) : (σ.setCall c x).fresh = σ.fresh := rfl

@[simp] theorem calls_setCall (c : Nat) (x : Call) :
    (σ.setCall c x).calls = σ.calls.set c x := rfl

@[simp] theorem slot_setKey (key : String) (v : Option Nat) (t : Nat) :
    (σ.setKey key v).slot t = σ.slot t := rfl

@[simp] theorem table_setKey (key k : String) (v : Option Nat) :
    (σ.setKey key v).table k = if k = key then v else σ.table k := rfl

@[simp] theorem calls_setKey (key : String) (v : Option Nat) :
    (σ.setKey key v).calls = σ.calls := rfl

@[simp] theorem fresh_setKey (key : String) (v : Option Nat) :
    (σ.setKey key v).fresh = σ.fresh := rfl

@[simp] theorem users_setSlot (s : Nat) (x : Slot M) : (σ.setSlot s x).users = σ.users := rfl

@[simp] theorem users_setKey (key : String) (v : Option Nat) :
    (σ.setKey key v).users = σ.users := rfl

@[simp] theorem slot_retain (s t : Nat) :
    (σ.retain s).slot t = if t = s then { σ.slot s with refs := (σ.slot s).refs + 1 }
      else σ.slot t := rfl

@[simp] theorem table_retain (s : Nat) : (σ.retain s).table = σ.table := rfl

@[simp] theorem calls_retain (s : Nat) : (σ.retain s).calls = σ.calls := rfl

@[simp] theorem fresh_retain (s : Nat) : (σ.retain s).fresh = σ.fresh := rfl

@[simp] theorem slot_unref (s t : Nat) :
    (σ.unref s).slot t = if t = s then { σ.slot s with refs := (σ.slot s).refs - 1 }
      else σ.slot t := rfl

@[simp] theorem table_unref (s : Nat) : (σ.unref s).table = σ.table := rfl

@[simp] theorem calls_unref (s : Nat) : (σ.unref s).calls = σ.calls := rfl

@[simp] theorem fresh_unref (s : Nat) : (σ.unref s).fresh = σ.fresh := rfl

@[simp] theorem users_unref (s : Nat) : (σ.unref s).users = σ.users := rfl

@[simp] theorem owner_retain (s t : Nat) : ((σ.retain s).slot t).owner = (σ.slot t).owner := by
  rw [slot_retain]
  split
  · next hts =>
    subst hts
    rfl
  · rfl

@[simp] theorem queue_retain (s t : Nat) : ((σ.retain s).slot t).queue = (σ.slot t).queue := by
  rw [slot_retain]
  split
  · next hts =>
    subst hts
    rfl
  · rfl

@[simp] theorem owner_unref (s t : Nat) : ((σ.unref s).slot t).owner = (σ.slot t).owner := by
  rw [slot_unref]
  split
  · next hts =>
    subst hts
    rfl
  · rfl

@[simp] theorem queue_unref (s t : Nat) : ((σ.unref s).slot t).queue = (σ.slot t).queue := by
  rw [slot_unref]
  split
  · next hts =>
    subst hts
    rfl
  · rfl

theorem call?_setCall (c d : Nat) (x : Call) :
    (σ.setCall c x).call? d =
      if c = d then (if c < σ.calls.length then some x else none) else σ.call? d := by
  simp [call?, List.getElem?_set]

theorem call?_setCall_of {c : Nat} {y : Call} (hc : σ.call? c = some y) (d : Nat) (x : Call) :
    (σ.setCall c x).call? d = if d = c then some x else σ.call? d := by
  have hlt : c < σ.calls.length := by
    simp only [call?, List.getElem?_eq_some_iff] at hc
    exact hc.1
  rw [call?_setCall]
  by_cases hd : d = c
  · subst hd
    simp [hlt]
  · simp [hd, Ne.symm hd]

end LockTable

end Rebill
