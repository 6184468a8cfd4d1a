import Rebill.Proofs.Execution
import Rebill.Proofs.StoreWrites

/-!
# What each primitive of the core does to the engine

The operations of the billing core are built from a handful of primitives: reading the clock,
the policy, the store or the gateways, writing the store, taking and giving back locks, counting,
announcing events and publishing messages. This module runs each of them once and for all: every
primitive has an equation for `Svc.exec`, so that later proofs step through an operation without
unfolding the primitives again.

The three updates that only record (`Engine.tally`, `Engine.announce`, `Engine.post`) are named,
with simp lemmas saying which parts of the engine they leave alone: a counter, an event or a
message never touches the store, the locks, the gateways, or the charges asked of the gateways.
-/

namespace Rebill

/-! ## Updates that only record -/

namespace Engine

variable (e : Engine)

/-- The engine with a counter raised: what `Svc.count` leaves. -/
def tally (c : Counter) : Engine :=
  { e with journal := { e.journal with counters := bump c e.journal.counters } }

/-- Whether an event or message offered to the outlets reaches the recorder. -/
def heard : Bool := e.outlets.sink == .recording && !e.outlets.eventsFail

/-- The engine after an event is offered to the sink: what `Svc.emit` leaves. A recording sink
keeps it unless it fails, when the refusal is counted; a broadcasting sink puts it in the step's
journal only; the others drop it. -/
def announce (ev : BillingEvent) (operation : String) : Engine :=
  match e.outlets.sink with
  | .recording =>
    if e.outlets.eventsFail then e.tally (.error "event" operation)
    else { e with recorded := { e.recorded with events := e.recorded.events ++ [ev] },
                  journal := { e.journal with events := e.journal.events ++ [ev] } }
  | .broadcast => { e with journal := { e.journal with events := e.journal.events ++ [ev] } }
  | .tracing | .unheard => e

/-- The engine after a message is offered to the queue: what `Svc.publish` leaves. Only a
recording sink has a queue; a failing one counts the refusal. -/
def post (m : StatusMessage) (operation : String) : Engine :=
  match e.outlets.sink with
  | .recording =>
    if e.outlets.queueFails then e.tally (.error "queue" operation)
    else { e with recorded := { e.recorded with messages := e.recorded.messages ++ [m] },
                  journal := { e.journal with messages := e.journal.messages ++ [m] } }
  | _ => e

section Fields

variable (c : Counter) (ev : BillingEvent) (m : StatusMessage) (op : String)

@[simp] theorem tally_store : (e.tally c).store = e.store := rfl
@[simp] theorem tally_held : (e.tally c).held = e.held := rfl
@[simp] theorem tally_now : (e.tally c).now = e.now := rfl
@[simp] theorem tally_policy : (e.tally c).policy = e.policy := rfl
@[simp] theorem tally_gateways : (e.tally c).gateways = e.gateways := rfl
@[simp] theorem tally_outlets : (e.tally c).outlets = e.outlets := rfl
@[simp] theorem tally_recorded : (e.tally c).recorded = e.recorded := rfl
@[simp] theorem tally_charges : (e.tally c).journal.charges = e.journal.charges := rfl

@[simp] theorem announce_store : (e.announce ev op).store = e.store := by
  unfold announce; split <;> (try split) <;> rfl
@[simp] theorem announce_held : (e.announce ev op).held = e.held := by
  unfold announce; split <;> (try split) <;> rfl
@[simp] theorem announce_now : (e.announce ev op).now = e.now := by
  unfold announce; split <;> (try split) <;> rfl
@[simp] theorem announce_policy : (e.announce ev op).policy = e.policy := by
  unfold announce; split <;> (try split) <;> rfl
@[simp] theorem announce_gateways : (e.announce ev op).gateways = e.gateways := by
  unfold announce; split <;> (try split) <;> rfl
@[simp] theorem announce_outlets : (e.announce ev op).outlets = e.outlets := by
  unfold announce; split <;> (try split) <;> rfl
@[simp] theorem announce_charges : (e.announce ev op).journal.charges = e.journal.charges := by
  unfold announce; split <;> (try split) <;> rfl
@[simp] theorem announce_messages : (e.announce ev op).recorded.messages = e.recorded.messages := by
  unfold announce; split <;> (try split) <;> rfl

@[simp] theorem announce_events :
    (e.announce ev op).recorded.events =
      e.recorded.events ++ (if e.heard then [ev] else []) := by
  unfold announce heard
  split <;> (try split) <;> simp_all

@[simp] theorem post_store : (e.post m op).store = e.store := by
  unfold post; split <;> (try split) <;> rfl
@[simp] theorem post_held : (e.post m op).held = e.held := by
  unfold post; split <;> (try split) <;> rfl
@[simp] theorem post_now : (e.post m op).now = e.now := by
  unfold post; split <;> (try split) <;> rfl
@[simp] theorem post_policy : (e.post m op).policy = e.policy := by
  unfold post; split <;> (try split) <;> rfl
@[simp] theorem post_gateways : (e.post m op).gateways = e.gateways := by
  unfold post; split <;> (try split) <;> rfl
@[simp] theorem post_outlets : (e.post m op).outlets = e.outlets := by
  unfold post; split <;> (try split) <;> rfl
@[simp] theorem post_charges : (e.post m op).journal.charges = e.journal.charges := by
  unfold post; split <;> (try split) <;> rfl
@[simp] theorem post_events : (e.post m op).recorded.events = e.recorded.events := by
  unfold post; split <;> (try split) <;> rfl

theorem post_messages :
    (e.post m op).recorded.messages =
      e.recorded.messages ++
        (if e.outlets.sink == .recording && !e.outlets.queueFails then [m] else []) := by
  unfold post
  split <;> (try split) <;> simp_all

end Fields

end Engine

/-! ## Running the primitives -/

namespace Svc

variable {α : Type} (e : Engine)

@[simp] theorem exec_now : now.exec e = .ok (.ok e.now, e) := rfl
@[simp] theorem exec_policy : policy.exec e = .ok (.ok e.policy, e) := rfl
@[simp] theorem exec_gateways : gateways.exec e = .ok (.ok e.gateways, e) := rfl
@[simp] theorem exec_store : store.exec e = .ok (.ok e.store, e) := rfl
@[simp] theorem exec_shuffle : shuffle.exec e = .ok (.ok e.shuffle, e) := rfl

@[simp] theorem exec_setStore (s : Store) : (setStore s).exec e = .ok (.ok (), { e with store := s }) :=
  rfl

@[simp] theorem exec_stored (r : Except Fault (α × Store)) :
    (stored r).exec e = match r with
      | .ok (a, s) => .ok (.ok a, { e with store := s })
      | .error f => .ok (.error (.storage f), e) := by
  rcases r with f | ⟨a, s⟩ <;> rfl

theorem keepsAt_stored_of {R : Engine → Engine → Prop} [Std.Refl R] {r : Except Fault (α × Store)}
    (h : ∀ a s, r = .ok (a, s) → R e { e with store := s }) : KeepsAt R (stored r) e := by
  intro x e' hx
  rw [exec_stored] at hx
  rcases hr : r with f | ⟨a, s⟩ <;> rw [hr] at hx <;> cases hx
  · exact refl_of R e
  · exact h a s hr

@[simp] theorem exec_time (r : Except Overflow α) :
    (time r).exec e = match r with
      | .ok a => .ok (.ok a, e)
      | .error o => .error o := by
  cases r <;> rfl

theorem exec_bind_time {β : Type} {r : Except Overflow α} {a : α} (h : r = .ok a) (f : α → Svc β)
    {e₁ : Engine} : (time r >>= f).exec e₁ = (f a).exec e₁ := by
  subst h
  rfl

@[simp] theorem exec_count (c : Counter) : (count c).exec e = .ok (.ok (), e.tally c) := rfl

theorem exec_acquire (key : String) :
    (acquire key).exec e =
      if key ∈ e.held then .ok (.error (.lockTimeout key e.policy.lockTimeoutMs), e)
      else .ok (.ok (), { e with held := key :: e.held }) := by
  unfold acquire
  simp only [exec_bind, exec_get]
  by_cases h : key ∈ e.held <;> simp [h]

@[simp] theorem exec_release (key : String) :
    (release key).exec e = .ok (.ok (), { e with held := e.held.erase key }) := rfl

@[simp] theorem exec_emit (ev : BillingEvent) (op : String) :
    (emit ev op).exec e = .ok (.ok (), e.announce ev op) := by
  unfold emit Engine.announce
  simp only [exec_bind, exec_get]
  cases e.outlets.sink with
  | recording => by_cases hf : e.outlets.eventsFail <;> simp [hf]
  | broadcast | tracing | unheard => rfl

@[simp] theorem exec_publish (m : StatusMessage) (op : String) :
    (publish m op).exec e = .ok (.ok (), e.post m op) := by
  unfold publish Engine.post
  simp only [exec_bind, exec_get]
  cases e.outlets.sink with
  | recording => by_cases hf : e.outlets.queueFails <;> simp [hf]
  | broadcast | tracing | unheard => rfl

theorem reads_now : Reads now fun _ => True := fun e _ _ hx => by cases hx; exact ⟨rfl, fun _ _ => trivial⟩
theorem reads_policy : Reads policy fun _ => True :=
  fun e _ _ hx => by cases hx; exact ⟨rfl, fun _ _ => trivial⟩
theorem reads_gateways : Reads gateways fun _ => True :=
  fun e _ _ hx => by cases hx; exact ⟨rfl, fun _ _ => trivial⟩
theorem reads_store : Reads store fun _ => True :=
  fun e _ _ hx => by cases hx; exact ⟨rfl, fun _ _ => trivial⟩

theorem reads_shuffle : Reads shuffle fun _ => True :=
  fun e _ _ hx => by cases hx; exact ⟨rfl, fun _ _ => trivial⟩

theorem exec_stop (o : Overflow) : (stop o : Svc α).exec e = .error o := rfl

theorem reads_stop {P : α → Prop} (o : Overflow) : Reads (stop o : Svc α) P :=
  fun _ _ _ hx => by cases hx

theorem keepsAt_stop_bind {β : Type} {R : Engine → Engine → Prop} {f : α → Svc β} (o : Overflow) :
    KeepsAt R (stop o >>= f) e := by
  intro r e' h
  rw [exec_bind, exec_stop] at h
  cases h

theorem reads_time (r : Except Overflow α) : Reads (time r) fun _ => True := by
  intro e r' e' hx
  cases r with
  | ok a => cases hx; exact ⟨rfl, fun _ _ => trivial⟩
  | error o => cases hx

theorem exec_withLock (key : String) (body : Svc α) :
    (withLock key body).exec e =
      if key ∈ e.held then .ok (.error (.lockTimeout key e.policy.lockTimeoutMs), e)
      else match body.exec { e with held := key :: e.held } with
        | .ok (r, e₁) => .ok (r, { e₁ with held := e₁.held.erase key })
        | .error o => .error o := by
  unfold withLock
  rw [exec_bind, exec_acquire]
  by_cases h : key ∈ e.held
  · simp [h]
  · simp only [h, if_false]
    rw [exec_bind, exec_tryCatch]
    rcases hb : body.exec { e with held := key :: e.held } with o | ⟨r | a, e₁⟩
    · rfl
    · simp only
      rw [exec_bind]
      simp
    · simp only
      rw [exec_bind]
      simp

theorem withLock_cases {key : String} {body : Svc α} {e e' : Engine} {r : Except BillingError α}
    (h : (withLock key body).exec e = .ok (r, e')) :
    (key ∈ e.held ∧ e' = e ∧ r = .error (.lockTimeout key e.policy.lockTimeoutMs)) ∨
      key ∉ e.held ∧ ∃ e₁, body.exec { e with held := key :: e.held } = .ok (r, e₁) ∧
        e' = { e₁ with held := e₁.held.erase key } := by
  rw [exec_withLock] at h
  split at h
  · cases h
    exact .inl ⟨‹_›, rfl, rfl⟩
  · rename_i hkey
    rcases hb : body.exec { e with held := key :: e.held } with o | ⟨r₁, e₁⟩ <;>
      simp only [hb] at h
    · cases h
    · cases h
      exact .inr ⟨hkey, e₁, rfl, rfl⟩

theorem finishes_stored (r : Except Fault (α × Store)) : Finishes (stored r) e := by
  rw [Finishes, exec_stored]
  split <;> exact ⟨_, _, rfl⟩

theorem finishes_withLock {key : String} {body : Svc α}
    (h : key ∉ e.held → Finishes body { e with held := key :: e.held }) :
    Finishes (withLock key body) e := by
  rw [Finishes, exec_withLock]
  split
  · exact ⟨_, _, rfl⟩
  · rename_i hkey
    obtain ⟨r, e₁, hb⟩ := h hkey
    exact ⟨r, _, by rw [hb]⟩

theorem exec_requireGateway (id : String) :
    (requireGateway id).exec e = match e.gateways.get? id with
      | some g => .ok (.ok g, e)
      | none => .ok (.error (.gateway (GatewayRegistry.unknown id)), e) := by
  unfold requireGateway
  simp only [exec_bind, exec_get]
  cases e.gateways.get? id <;> rfl

end Svc

end Rebill
