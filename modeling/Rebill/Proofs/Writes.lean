import Mathlib.Data.Multiset.MapFold
import Mathlib.Logic.Equiv.Basic
import Rebill.Proofs.Charging

/-!
# The writes of a run, and what can be seen of an engine

Every change that processing an attempt makes to the engine is one of eight `Write`s: an attempt
saved over its row, a payment opened, a status written to a payment, an audit line, a counter
raised, an event or a message offered to the outlets, and a gateway asked to charge.
`Engine.write` makes each the way the operations make it, so that what an operation does is a
list of writes.

What matters of an engine is what can be looked up in it (`Observed`): a payment by its
identifier, the audit lines of a payment, the events and messages of each payment and of each
attempt in the order they were offered, the multiset of gateway calls and of charges, the value
of each counter and the gateway of each name. The rows of attempts are kept as they are, in
their order. Each write acts on the observed engine field by field (`Observed.write`, with
`Engine.observed_write`); two writes under different identifiers commute there
(`Write.Apart`, `Observed.write_comm`), although the lists of the engine come out in another
order.

Payments are opened under the store's next serial, so two runs that open them in another order
name them differently. `Observed.rename` renames payment identifiers by a permutation, and every
write commutes with a renaming (`Observed.rename_write`), as long as the gateway's answer does
not read the payment's identifier.
-/

namespace Rebill

/-- One change to the engine, as the operations of a run make it. -/
inductive Write where
  /-- An attempt saved over its row, as `Store.saveCharge` saves it. -/
  | save (c : Charge)
  /-- A payment opened under the next serial: appended, and the serial moved on. -/
  | create (p : Payment)
  /-- A change of status written to a payment, as `Store.savePaymentStatus` writes it. -/
  | status (id : Ident) (w : StatusWrite)
  /-- A line appended to the audit log. -/
  | audit (a : AuditEntry)
  /-- A counter raised. -/
  | tally (k : Counter)
  /-- An event offered to the sink. -/
  | announce (ev : BillingEvent) (op : String)
  /-- A message offered to the queue. -/
  | post (m : StatusMessage) (op : String)
  /-- A gateway asked to charge a payment for an attempt. -/
  | charge (g : Gateway) (p : Payment) (c : Charge)

namespace Engine

def write (e : Engine) : Write → Engine
  | .save c => { e with store := { e.store with
      rows := modifyFirst (·.charge.id) c.id (fun r => { r with charge := r.charge.savedOver c e.now })
        e.store.rows } }
  | .create p => { e with store := { e.store with payments := e.store.payments ++ [p],
                                                  serial := e.store.serial + 1 } }
  | .status id w => { e with store := { e.store with
      payments := modifyFirst (·.id) id (·.write w e.now) e.store.payments } }
  | .audit a => { e with store := e.store.appendAudit a }
  | .tally k => e.tally k
  | .announce ev op => e.announce ev op
  | .post m op => e.post m op
  | .charge g p c => e.afterCharge g p c

def writeAll (e : Engine) (ws : List Write) : Engine := ws.foldl write e

variable (e : Engine) (w : Write) (ws ws' : List Write)

@[simp] theorem writeAll_nil : e.writeAll [] = e := rfl

@[simp] theorem writeAll_cons : e.writeAll (w :: ws) = (e.write w).writeAll ws := rfl

theorem writeAll_append : e.writeAll (ws ++ ws') = (e.writeAll ws).writeAll ws' :=
  List.foldl_append

/-! Writes leave the clock, the policy, the locks, the outlets and the stored methods alone. -/

@[simp] theorem write_now : (e.write w).now = e.now := by
  cases w <;> simp [write]
@[simp] theorem write_policy : (e.write w).policy = e.policy := by
  cases w <;> simp [write]
@[simp] theorem write_held : (e.write w).held = e.held := by
  cases w <;> simp [write]
@[simp] theorem write_outlets : (e.write w).outlets = e.outlets := by
  cases w <;> simp [write]
@[simp] theorem write_methods : (e.write w).store.methods = e.store.methods := by
  cases w <;> simp [write, Store.appendAudit]

@[simp] theorem writeAll_now : (e.writeAll ws).now = e.now := by
  induction ws generalizing e <;> simp_all
@[simp] theorem writeAll_policy : (e.writeAll ws).policy = e.policy := by
  induction ws generalizing e <;> simp_all
@[simp] theorem writeAll_held : (e.writeAll ws).held = e.held := by
  induction ws generalizing e <;> simp_all
@[simp] theorem writeAll_outlets : (e.writeAll ws).outlets = e.outlets := by
  induction ws generalizing e <;> simp_all
@[simp] theorem writeAll_methods : (e.writeAll ws).store.methods = e.store.methods := by
  induction ws generalizing e <;> simp_all

end Engine

/-! ## What can be seen of an engine -/

namespace BillingEvent

def payment? : BillingEvent → Option Ident
  | .paymentStatusChanged p _ _ _ => some p
  | .chargeStateChanged _ _ _ => none

def charge? : BillingEvent → Option Ident
  | .paymentStatusChanged _ _ _ _ => none
  | .chargeStateChanged c _ _ => some c

end BillingEvent

/-- The events of each payment and of each attempt, and the messages of each payment, in the order
they were offered. -/
@[ext] structure Heard where
  payment : Ident → List BillingEvent
  charge : Ident → List BillingEvent
  messages : Ident → List StatusMessage

namespace Heard

/-- Lists of events and messages, sorted by what they are about. -/
def ofLists (evs : List BillingEvent) (ms : List StatusMessage) : Heard where
  payment i := evs.filter (·.payment? == some i)
  charge i := evs.filter (·.charge? == some i)
  messages i := ms.filter (·.payment == i)

def addEvent (h : Heard) (ev : BillingEvent) : Heard where
  payment i := h.payment i ++ if ev.payment? = some i then [ev] else []
  charge i := h.charge i ++ if ev.charge? = some i then [ev] else []
  messages := h.messages

def addMessage (h : Heard) (m : StatusMessage) : Heard where
  payment := h.payment
  charge := h.charge
  messages i := h.messages i ++ if m.payment = i then [m] else []

theorem ofLists_addEvent (evs : List BillingEvent) (ms : List StatusMessage) (ev : BillingEvent) :
    ofLists (evs ++ [ev]) ms = (ofLists evs ms).addEvent ev := by
  ext1 <;> funext i <;> simp [ofLists, addEvent, List.filter_append, List.filter_singleton, cond_eq_ite]

theorem ofLists_addMessage (evs : List BillingEvent) (ms : List StatusMessage) (m : StatusMessage) :
    ofLists evs (ms ++ [m]) = (ofLists evs ms).addMessage m := by
  ext1 <;> funext i <;> simp [ofLists, addMessage, List.filter_append, List.filter_singleton,
    cond_eq_ite]

end Heard

/-- What can be looked up in an engine: everything but the order of its lists of payments, audit
lines, events, messages, calls, charges and counters. -/
@[ext] structure Observed where
  now : Instant
  policy : Policy
  held : List String
  outlets : Outlets
  gateway : String → Option Gateway
  methods : List Method
  rows : List ChargeRow
  seq : Nat
  serial : Nat
  payment : Ident → Option Payment
  audit : Ident → List AuditEntry
  journal : Heard
  recorded : Heard
  calls : Multiset GatewayCall
  charges : Multiset GatewayCharge
  counter : Counter → Option Nat

def Engine.observed (e : Engine) : Observed where
  now := e.now
  policy := e.policy
  held := e.held
  outlets := e.outlets
  gateway := e.gateways.get?
  methods := e.store.methods
  rows := e.store.rows
  seq := e.store.seq
  serial := e.store.serial
  payment := e.store.payment?
  audit := e.store.auditOf
  journal := .ofLists e.journal.events e.journal.messages
  recorded := .ofLists e.recorded.events e.recorded.messages
  calls := e.journal.calls
  charges := e.journal.charges
  counter k := e.journal.counters.lookup k

/-! ## Each write, field by field -/

namespace Write

def raise (k : Counter) (f : Counter → Option Nat) : Counter → Option Nat :=
  fun k' => if k' = k then some ((f k).getD 0 + 1) else f k'

/-- What the write does to the rows of attempts, at the instant `t`. -/
def onRows (t : Instant) : Write → List ChargeRow → List ChargeRow
  | .save c => modifyFirst (·.charge.id) c.id (fun r => { r with charge := r.charge.savedOver c t })
  | _ => id

/-- What the write does to the payment under each identifier, at the instant `t`. -/
def onPayments (t : Instant) : Write → (Ident → Option Payment) → Ident → Option Payment
  | .create p, f => fun i => (f i).or (if p.id = i then some p else none)
  | .status id w, f => fun i => if id = i then (f id).map (·.write w t) else f i
  | _, f => f

def opened : Write → Nat
  | .create _ => 1
  | _ => 0

/-- What the write does to the audit lines of each payment. -/
def onAudit : Write → (Ident → List AuditEntry) → Ident → List AuditEntry
  | .audit a, f => fun i => f i ++ if a.payment = i then [a] else []
  | _, f => f

/-- What the write does to the events and messages of the journal, through the outlets `o`. -/
def onJournal (o : Outlets) : Write → Heard → Heard
  | .announce ev _, h =>
    if (o.sink = .recording ∧ o.eventsFail = false) ∨ o.sink = .broadcast then h.addEvent ev else h
  | .post m _, h => if o.sink = .recording ∧ o.queueFails = false then h.addMessage m else h
  | _, h => h

/-- What the write does to what the recorder kept, through the outlets `o`. -/
def onRecorded (o : Outlets) : Write → Heard → Heard
  | .announce ev _, h => if o.sink = .recording ∧ o.eventsFail = false then h.addEvent ev else h
  | .post m _, h => if o.sink = .recording ∧ o.queueFails = false then h.addMessage m else h
  | _, h => h

/-- What the write does to the counters, through the outlets `o`: a refused event or message is
counted. -/
def onCounter (o : Outlets) : Write → (Counter → Option Nat) → Counter → Option Nat
  | .tally k, f => raise k f
  | .announce _ op, f =>
    if o.sink = .recording ∧ o.eventsFail = true then raise (.error "event" op) f else f
  | .post _ op, f =>
    if o.sink = .recording ∧ o.queueFails = true then raise (.error "queue" op) f else f
  | _, f => f

def onGateway : Write → (String → Option Gateway) → String → Option Gateway
  | .charge g p c, f => fun x =>
    if (g.charge p c.token).2.1.id = x then some (g.charge p c.token).2.1 else f x
  | _, f => f

def calls : Write → List GatewayCall
  | .charge g p c => (g.charge p c.token).2.2.toList
  | _ => []

def charges : Write → List GatewayCharge
  | .charge g p c => [⟨p.id, c.id, (g.charge p c.token).1⟩]
  | _ => []

end Write

namespace Observed

def write (o : Observed) (w : Write) : Observed :=
  { o with
    gateway := w.onGateway o.gateway
    rows := w.onRows o.now o.rows
    serial := o.serial + w.opened
    payment := w.onPayments o.now o.payment
    audit := w.onAudit o.audit
    journal := w.onJournal o.outlets o.journal
    recorded := w.onRecorded o.outlets o.recorded
    calls := o.calls + w.calls
    charges := o.charges + w.charges
    counter := w.onCounter o.outlets o.counter }

def writeAll (o : Observed) (ws : List Write) : Observed := ws.foldl write o

variable (o : Observed) (w : Write) (ws ws' : List Write)

@[simp] theorem writeAll_nil : o.writeAll [] = o := rfl

@[simp] theorem writeAll_cons : o.writeAll (w :: ws) = (o.write w).writeAll ws := rfl

theorem writeAll_append : o.writeAll (ws ++ ws') = (o.writeAll ws).writeAll ws' :=
  List.foldl_append

@[simp] theorem write_now : (o.write w).now = o.now := rfl
@[simp] theorem write_outlets : (o.write w).outlets = o.outlets := rfl
@[simp] theorem write_serial : (o.write w).serial = o.serial + w.opened := rfl

end Observed

/-! ## The engine's writes, as they are seen -/

theorem lookup_cons_counter (a k : Counter) (n : Nat) (l : List (Counter × Nat)) :
    ((k, n) :: l).lookup a = if a = k then some n else l.lookup a := by
  rw [List.lookup_cons]
  by_cases h : a = k
  · simp [h]
  · have hb : (a == k) = false := by simpa using h
    simp [hb, h]

theorem lookup_bump (c k : Counter) (l : List (Counter × Nat)) :
    (bump c l).lookup k = Write.raise c (fun k => l.lookup k) k := by
  induction l with
  | nil => by_cases hk : k = c <;> simp [bump, Write.raise, lookup_cons_counter, hk]
  | cons d rest ih =>
    obtain ⟨d, n⟩ := d
    by_cases hd : d = c
    · subst hd
      by_cases hk : k = d <;> simp [bump, Write.raise, lookup_cons_counter, hk]
    · simp only [bump, hd, if_false, lookup_cons_counter, ih]
      by_cases hk : k = d
      · subst hk
        simp [Write.raise, hd]
      · by_cases hkc : k = c
        · subst hkc
          simp [Write.raise, Ne.symm hd]
        · simp [Write.raise, hkc, hk]

theorem find?_map_register (g : Gateway) (x : String) (l : List Gateway) :
    (l.map fun h => if h.id == g.id then g else h).find? (·.id == x) =
      if g.id = x then (if l.any (·.id == g.id) then some g else none) else l.find? (·.id == x) := by
  induction l with
  | nil => simp
  | cons h t ih =>
    by_cases hh : h.id = g.id <;> by_cases hg : g.id = x <;>
      simp_all [List.find?_cons, List.any_cons]

theorem GatewayRegistry.get?_register (r : GatewayRegistry) (g : Gateway) (x : String) :
    (r.register g).get? x = if g.id = x then some g else r.get? x := by
  unfold register get?
  split
  · rename_i hany
    rw [find?_map_register, hany]
    by_cases hx : g.id = x <;> simp [hx]
  · rename_i hany
    rw [List.find?_append]
    by_cases hx : g.id = x
    · subst hx
      have hnone : r.gateways.find? (·.id == g.id) = none := by
        rw [List.find?_eq_none]
        intro h hmem hh
        exact hany (List.any_eq_true.mpr ⟨h, hmem, hh⟩)
      simp [hnone]
    · cases r.gateways.find? (·.id == x) <;> simp [hx]

namespace Engine

variable (e : Engine) (w : Write) (ws : List Write)

/-! Each field of the engine that can be looked up, after a write. -/

@[simp] theorem rows_write : (e.write w).store.rows = w.onRows e.now e.store.rows := by
  cases w <;> simp [write, Write.onRows, Store.appendAudit]

@[simp] theorem seq_write : (e.write w).store.seq = e.store.seq := by
  cases w <;> simp [write, Store.appendAudit]

@[simp] theorem serial_write : (e.write w).store.serial = e.store.serial + w.opened := by
  cases w <;> simp [write, Write.opened, Store.appendAudit]

@[simp] theorem payment?_write (x : Ident) :
    (e.write w).store.payment? x = w.onPayments e.now e.store.payment? x := by
  cases w with
  | create p =>
    by_cases hx : p.id = x <;> simp [write, Write.onPayments, Store.payment?, List.find?_append, hx]
  | status id sw =>
    exact find?_modifyFirst Payment.id id x (·.write sw e.now) (fun _ h => h) e.store.payments
  | _ => simp [write, Write.onPayments, Store.payment?, Store.appendAudit]

@[simp] theorem auditOf_write (x : Ident) :
    (e.write w).store.auditOf x = w.onAudit e.store.auditOf x := by
  cases w with
  | audit a =>
    by_cases hx : a.payment = x <;>
      simp [write, Write.onAudit, Store.auditOf, Store.appendAudit, List.filter_append, hx]
  | _ => simp [write, Write.onAudit, Store.auditOf]

@[simp] theorem get?_write (x : String) :
    (e.write w).gateways.get? x = w.onGateway e.gateways.get? x := by
  cases w with
  | charge g p c => simp [write, afterCharge, Write.onGateway, GatewayRegistry.get?_register]
  | _ => simp [write, Write.onGateway, Store.appendAudit]

@[simp] theorem journal_write :
    Heard.ofLists (e.write w).journal.events (e.write w).journal.messages =
      w.onJournal e.outlets (Heard.ofLists e.journal.events e.journal.messages) := by
  cases w with
  | announce ev op =>
    simp only [write, announce, Write.onJournal]
    cases hs : e.outlets.sink <;> cases hf : e.outlets.eventsFail <;>
      simp [tally, Heard.ofLists_addEvent]
  | post m op =>
    simp only [write, post, Write.onJournal]
    cases hs : e.outlets.sink <;> cases hf : e.outlets.queueFails <;>
      simp [tally, Heard.ofLists_addMessage]
  | _ => simp [write, Write.onJournal, tally, afterCharge]

@[simp] theorem recorded_write :
    Heard.ofLists (e.write w).recorded.events (e.write w).recorded.messages =
      w.onRecorded e.outlets (Heard.ofLists e.recorded.events e.recorded.messages) := by
  cases w with
  | announce ev op =>
    simp only [write, announce, Write.onRecorded]
    cases hs : e.outlets.sink <;> cases hf : e.outlets.eventsFail <;>
      simp [tally, Heard.ofLists_addEvent]
  | post m op =>
    simp only [write, post, Write.onRecorded]
    cases hs : e.outlets.sink <;> cases hf : e.outlets.queueFails <;>
      simp [tally, Heard.ofLists_addMessage]
  | _ => simp [write, Write.onRecorded, tally, afterCharge]

@[simp] theorem calls_write : (e.write w).journal.calls = e.journal.calls ++ w.calls := by
  cases w with
  | charge g p c => simp [write, afterCharge, Write.calls]
  | announce ev op =>
    simp only [write, announce, Write.calls]
    cases e.outlets.sink <;> cases e.outlets.eventsFail <;> simp [tally]
  | post m op =>
    simp only [write, post, Write.calls]
    cases e.outlets.sink <;> cases e.outlets.queueFails <;> simp [tally]
  | _ => simp [write, Write.calls, tally]

@[simp] theorem charges_write : (e.write w).journal.charges = e.journal.charges ++ w.charges := by
  cases w with
  | charge g p c => simp [write, afterCharge, Write.charges]
  | _ => simp [write, Write.charges]

@[simp] theorem lookup_write (k : Counter) :
    (e.write w).journal.counters.lookup k =
      w.onCounter e.outlets (fun k => e.journal.counters.lookup k) k := by
  cases w with
  | tally c => simp [write, tally, Write.onCounter, lookup_bump]
  | announce ev op =>
    simp only [write, announce, Write.onCounter]
    cases hs : e.outlets.sink <;> cases hf : e.outlets.eventsFail <;> simp [tally, lookup_bump]
  | post m op =>
    simp only [write, post, Write.onCounter]
    cases hs : e.outlets.sink <;> cases hf : e.outlets.queueFails <;> simp [tally, lookup_bump]
  | _ => simp [write, Write.onCounter, afterCharge, Store.appendAudit]

theorem observed_write : (e.write w).observed = e.observed.write w := by
  ext1 <;> simp [observed, Observed.write, funext (payment?_write e w), funext (auditOf_write e w),
    funext (get?_write e w)]

theorem observed_writeAll : (e.writeAll ws).observed = e.observed.writeAll ws := by
  induction ws generalizing e with
  | nil => rfl
  | cons w ws ih => rw [writeAll_cons, Observed.writeAll_cons, ih, observed_write]

end Engine

/-! ## Writes under different identifiers commute -/

section Keyed

variable {α : Type} (key : α → Ident)

theorem modifyFirst_comm {k k' : Ident} (hk : k ≠ k') {f g : α → α} (hf : ∀ y, key (f y) = key y)
    (hg : ∀ y, key (g y) = key y) (l : List α) :
    modifyFirst key k f (modifyFirst key k' g l) = modifyFirst key k' g (modifyFirst key k f l) := by
  induction l with
  | nil => rfl
  | cons y ys ih =>
    by_cases hy : key y = k
    · have hy' : key y ≠ k' := fun h => hk (hy.symm.trans h)
      simp [modifyFirst, hy, hf, hk]
    · by_cases hy' : key y = k'
      · simp [modifyFirst, hy', hg, Ne.symm hk]
      · simp [modifyFirst, hy, hy', ih]

end Keyed

namespace Write

/-- The attempts under which a write changes what can be looked up: the attempt it saves, the
attempt its event is about. -/
def attemptKeys : Write → List Ident
  | .save c => [c.id]
  | .announce ev _ => ev.charge?.toList
  | _ => []

/-- The payments under which a write changes what can be looked up: the payment it opens or
writes, the payment of its audit line, of its event or of its message. -/
def paymentKeys : Write → List Ident
  | .create p => [p.id]
  | .status id _ => [id]
  | .audit a => [a.payment]
  | .announce ev _ => ev.payment?.toList
  | .post m _ => [m.payment]
  | _ => []

def registers : Write → Option Gateway
  | .charge g p c => some (g.charge p c.token).2.1
  | _ => none

/-- Two writes that change nothing under a common identifier and register no two gateways of one
name. -/
structure Apart (x y : Write) : Prop where
  attempts : ∀ i ∈ x.attemptKeys, i ∉ y.attemptKeys
  payments : ∀ i ∈ x.paymentKeys, i ∉ y.paymentKeys
  registers : ∀ g ∈ x.registers, ∀ g' ∈ y.registers, g.id = g'.id → g = g'

theorem Apart.symm {x y : Write} (h : x.Apart y) : y.Apart x :=
  ⟨fun i hy hx => h.attempts i hx hy, fun i hy hx => h.payments i hx hy,
    fun g hg g' hg' hid => (h.registers g' hg' g hg hid.symm).symm⟩

theorem raise_comm (k k' : Counter) (f : Counter → Option Nat) :
    raise k (raise k' f) = raise k' (raise k f) := by
  funext j
  by_cases hk : j = k <;> by_cases hk' : j = k' <;> by_cases hkk : k = k' <;>
    simp_all [raise]

variable {x y : Write}

theorem onRows_comm (h : x.Apart y) (t : Instant) (rows : List ChargeRow) :
    x.onRows t (y.onRows t rows) = y.onRows t (x.onRows t rows) := by
  cases x with
  | save c =>
    cases y with
    | save c' =>
      have hne : c.id ≠ c'.id := fun heq =>
        h.attempts c.id (by simp [attemptKeys]) (by simp [attemptKeys, heq])
      simp only [onRows]
      exact modifyFirst_comm (fun r : ChargeRow => r.charge.id) hne
        (f := fun r => { r with charge := r.charge.savedOver c t })
        (g := fun r => { r with charge := r.charge.savedOver c' t }) (fun _ => rfl) (fun _ => rfl) rows
    | _ => rfl
  | _ => rfl

theorem onPayments_comm (h : x.Apart y) (t : Instant) (f : Ident → Option Payment) :
    x.onPayments t (y.onPayments t f) = y.onPayments t (x.onPayments t f) := by
  have hne : ∀ i j, i ∈ x.paymentKeys → j ∈ y.paymentKeys → i ≠ j := fun i j hi hj heq =>
    h.payments i hi (heq ▸ hj)
  funext i
  cases x <;> cases y <;> simp only [onPayments]
  case create.create p p' =>
    have := hne p.id p'.id (by simp [paymentKeys]) (by simp [paymentKeys])
    by_cases hp : p.id = i <;> by_cases hp' : p'.id = i <;> simp_all
  case create.status p id w =>
    have := hne p.id id (by simp [paymentKeys]) (by simp [paymentKeys])
    by_cases hp : p.id = i <;> by_cases hid : id = i <;> simp_all
  case status.create id w p =>
    have := hne id p.id (by simp [paymentKeys]) (by simp [paymentKeys])
    by_cases hp : p.id = i <;> by_cases hid : id = i <;> simp_all
  case status.status id w id' w' =>
    have := hne id id' (by simp [paymentKeys]) (by simp [paymentKeys])
    by_cases hid : id = i <;> by_cases hid' : id' = i <;> simp_all

theorem onAudit_comm (h : x.Apart y) (f : Ident → List AuditEntry) :
    x.onAudit (y.onAudit f) = y.onAudit (x.onAudit f) := by
  cases x with
  | audit a =>
    cases y with
    | audit a' =>
      have hne : a.payment ≠ a'.payment := fun heq =>
        h.payments a.payment (by simp [paymentKeys]) (by simp [paymentKeys, heq])
      funext i
      by_cases hi : a.payment = i <;> by_cases hi' : a'.payment = i <;> simp_all [onAudit]
    | _ => rfl
  | _ => rfl

end Write

namespace Heard

theorem addEvent_comm {ev ev' : BillingEvent} (hp : ∀ i, ev.payment? = some i → ev'.payment? ≠ some i)
    (hc : ∀ i, ev.charge? = some i → ev'.charge? ≠ some i) (h : Heard) :
    (h.addEvent ev).addEvent ev' = (h.addEvent ev').addEvent ev := by
  ext1 <;> funext i <;> simp only [addEvent]
  · by_cases h₁ : ev.payment? = some i
    · simp [h₁, hp i h₁]
    · by_cases h₂ : ev'.payment? = some i <;> simp [h₁, h₂]
  · by_cases h₁ : ev.charge? = some i
    · simp [h₁, hc i h₁]
    · by_cases h₂ : ev'.charge? = some i <;> simp [h₁, h₂]

theorem addMessage_comm {m m' : StatusMessage} (hm : m.payment ≠ m'.payment) (h : Heard) :
    (h.addMessage m).addMessage m' = (h.addMessage m').addMessage m := by
  ext1 <;> funext i <;> simp only [addMessage]
  by_cases h₁ : m.payment = i
  · simp [h₁, show m'.payment ≠ i from fun h' => hm (h₁.trans h'.symm)]
  · by_cases h₂ : m'.payment = i <;> simp [h₁, h₂]

theorem addEvent_addMessage (ev : BillingEvent) (m : StatusMessage) (h : Heard) :
    (h.addEvent ev).addMessage m = (h.addMessage m).addEvent ev := rfl

end Heard

namespace Write

variable {x y : Write}

theorem Apart.events {ev ev' : BillingEvent} {op op' : String}
    (h : (announce ev op).Apart (announce ev' op')) :
    (∀ i, ev.payment? = some i → ev'.payment? ≠ some i) ∧
      ∀ i, ev.charge? = some i → ev'.charge? ≠ some i :=
  ⟨fun i h₁ h₂ => h.payments i (by simp [paymentKeys, h₁]) (by simp [paymentKeys, h₂]),
    fun i h₁ h₂ => h.attempts i (by simp [attemptKeys, h₁]) (by simp [attemptKeys, h₂])⟩

theorem Apart.messages {m m' : StatusMessage} {op op' : String}
    (h : (post m op).Apart (post m' op')) : m.payment ≠ m'.payment :=
  fun heq => h.payments m.payment (by simp [paymentKeys]) (by simp [paymentKeys, heq])

theorem onJournal_comm (h : x.Apart y) (o : Outlets) (hd : Heard) :
    x.onJournal o (y.onJournal o hd) = y.onJournal o (x.onJournal o hd) := by
  cases x <;> cases y <;> simp only [onJournal]
  case announce.announce ev op ev' op' =>
    obtain ⟨hp, hc⟩ := h.events
    split_ifs
    · exact Heard.addEvent_comm (fun i h₁ h₂ => hp i h₂ h₁) (fun i h₁ h₂ => hc i h₂ h₁) hd
    · rfl
  case post.post m op m' op' =>
    split_ifs
    · exact Heard.addMessage_comm (Ne.symm h.messages) hd
    · rfl
  case announce.post => split_ifs <;> rfl
  case post.announce => split_ifs <;> rfl

theorem onRecorded_comm (h : x.Apart y) (o : Outlets) (hd : Heard) :
    x.onRecorded o (y.onRecorded o hd) = y.onRecorded o (x.onRecorded o hd) := by
  cases x <;> cases y <;> simp only [onRecorded]
  case announce.announce ev op ev' op' =>
    obtain ⟨hp, hc⟩ := h.events
    split_ifs
    · exact Heard.addEvent_comm (fun i h₁ h₂ => hp i h₂ h₁) (fun i h₁ h₂ => hc i h₂ h₁) hd
    · rfl
  case post.post m op m' op' =>
    split_ifs
    · exact Heard.addMessage_comm (Ne.symm h.messages) hd
    · rfl
  case announce.post => split_ifs <;> rfl
  case post.announce => split_ifs <;> rfl

theorem onCounter_eq (x : Write) (o : Outlets) : (∃ k, x.onCounter o = raise k) ∨ x.onCounter o = id := by
  cases x with
  | tally k => exact .inl ⟨k, rfl⟩
  | announce ev op =>
    by_cases hc : o.sink = .recording ∧ o.eventsFail = true
    · exact .inl ⟨_, funext fun _ => if_pos hc⟩
    · exact .inr (funext fun _ => if_neg hc)
  | post m op =>
    by_cases hc : o.sink = .recording ∧ o.queueFails = true
    · exact .inl ⟨_, funext fun _ => if_pos hc⟩
    · exact .inr (funext fun _ => if_neg hc)
  | _ => exact .inr rfl

theorem onCounter_comm (o : Outlets) (f : Counter → Option Nat) :
    x.onCounter o (y.onCounter o f) = y.onCounter o (x.onCounter o f) := by
  rcases x.onCounter_eq o with ⟨k, hx⟩ | hx <;> rcases y.onCounter_eq o with ⟨k', hy⟩ | hy <;>
    simp only [hx, hy, id, raise_comm]

theorem onGateway_comm (h : x.Apart y) (f : String → Option Gateway) :
    x.onGateway (y.onGateway f) = y.onGateway (x.onGateway f) := by
  cases x with
  | charge g p c =>
    cases y with
    | charge g' p' c' =>
      have hreg := h.registers _ rfl _ rfl
      funext n
      simp only [onGateway]
      by_cases h₁ : (g.charge p c.token).2.1.id = n <;>
        by_cases h₂ : (g'.charge p' c'.token).2.1.id = n
      · simp only [if_pos h₂, hreg (h₁.trans h₂.symm)]
      · simp only [if_pos h₁, if_neg h₂]
      · simp only [if_neg h₁, if_pos h₂]
      · simp only [if_neg h₁, if_neg h₂]
    | _ => rfl
  | _ => rfl

end Write

namespace Observed

theorem write_comm {x y : Write} (h : x.Apart y) (o : Observed) :
    (o.write x).write y = (o.write y).write x := by
  ext1 <;> simp only [write]
  · exact y.onGateway_comm h.symm _
  · exact y.onRows_comm h.symm _ _
  · omega
  · exact y.onPayments_comm h.symm _ _
  · exact y.onAudit_comm h.symm _
  · exact y.onJournal_comm h.symm _ _
  · exact y.onRecorded_comm h.symm _ _
  · rw [Multiset.add_assoc, Multiset.add_comm (x.calls : Multiset GatewayCall), ← Multiset.add_assoc]
  · rw [Multiset.add_assoc, Multiset.add_comm (x.charges : Multiset GatewayCharge),
      ← Multiset.add_assoc]
  · exact y.onCounter_comm _ _

theorem write_writeAll_comm {x : Write} {ys : List Write} (h : ∀ y ∈ ys, x.Apart y)
    (o : Observed) : (o.write x).writeAll ys = (o.writeAll ys).write x := by
  induction ys generalizing o with
  | nil => rfl
  | cons y ys ih =>
    rw [writeAll_cons, write_comm (h y (List.mem_cons_self ..)), ih (fun y hy => h y (by simp [hy])),
      writeAll_cons]

theorem writeAll_comm {xs ys : List Write} (h : ∀ x ∈ xs, ∀ y ∈ ys, x.Apart y) (o : Observed) :
    (o.writeAll xs).writeAll ys = (o.writeAll ys).writeAll xs := by
  induction xs generalizing o with
  | nil => rfl
  | cons x xs ih =>
    rw [writeAll_cons, ih (fun x hx => h x (by simp [hx])),
      write_writeAll_comm (h x (List.mem_cons_self ..)), writeAll_cons]

end Observed

/-! ## Renaming payments -/

section Rename

variable (σ τ : Equiv.Perm Ident)

/-- The payment with its identifier and its parent renamed. -/
def Payment.rename (p : Payment) : Payment := { p with id := σ p.id, parent := p.parent.map σ }

/-- The attempt with its parent payment and its payment renamed. -/
def Charge.rename (c : Charge) : Charge :=
  { c with parent := σ c.parent, payment := c.payment.map σ }

def ChargeRow.rename (r : ChargeRow) : ChargeRow := { r with charge := r.charge.rename σ }

def AuditEntry.rename (a : AuditEntry) : AuditEntry := { a with payment := σ a.payment }

def BillingEvent.rename : BillingEvent → BillingEvent
  | .paymentStatusChanged p o n b => .paymentStatusChanged (σ p) o n b
  | .chargeStateChanged c o n => .chargeStateChanged c o n

def StatusMessage.rename (m : StatusMessage) : StatusMessage := { m with payment := σ m.payment }

def GatewayCall.rename (call : GatewayCall) : GatewayCall :=
  { call with payment := σ call.payment }

def GatewayCharge.rename (k : GatewayCharge) : GatewayCharge :=
  { k with payment := σ k.payment }

def Write.rename : Write → Write
  | .save c => .save (c.rename σ)
  | .create p => .create (p.rename σ)
  | .status id w => .status (σ id) w
  | .audit a => .audit (a.rename σ)
  | .tally k => .tally k
  | .announce ev op => .announce (ev.rename σ) op
  | .post m op => .post (m.rename σ) op
  | .charge g p c => .charge g (p.rename σ) (c.rename σ)

/-- The events and messages, each under its renamed payment. -/
def Heard.rename (h : Heard) : Heard where
  payment i := (h.payment (σ.symm i)).map (·.rename σ)
  charge := h.charge
  messages i := (h.messages (σ.symm i)).map (·.rename σ)

/-- The observed engine with its payments renamed: each payment, audit line, event, message,
call and charge under the renamed payment, and the rows with their payments renamed. -/
def Observed.rename (o : Observed) : Observed :=
  { o with
    rows := o.rows.map (·.rename σ)
    payment := fun i => (o.payment (σ.symm i)).map (·.rename σ)
    audit := fun i => (o.audit (σ.symm i)).map (·.rename σ)
    journal := o.journal.rename σ
    recorded := o.recorded.rename σ
    calls := o.calls.map (·.rename σ)
    charges := o.charges.map (·.rename σ) }

/-- A write whose gateway, if it asks one, answers the renamed payment as it answers the payment. -/
def Write.KeepsReply : Write → Prop
  | .charge g p c => (g.charge (p.rename σ) c.token).1 = (g.charge p c.token).1
  | _ => True

variable {σ τ}

@[simp] theorem Payment.rename_id (p : Payment) : (p.rename σ).id = σ p.id := rfl
@[simp] theorem Payment.rename_amount (p : Payment) : (p.rename σ).amount = p.amount := rfl
@[simp] theorem Payment.rename_gateway (p : Payment) : (p.rename σ).gateway = p.gateway := rfl
@[simp] theorem Payment.rename_status (p : Payment) : (p.rename σ).status = p.status := rfl
@[simp] theorem Charge.rename_id (c : Charge) : (c.rename σ).id = c.id := rfl
@[simp] theorem Charge.rename_token (c : Charge) : (c.rename σ).token = c.token := rfl

theorem Payment.rename_write (p : Payment) (w : StatusWrite) (t : Instant) :
    (p.write w t).rename σ = (p.rename σ).write w t := rfl

@[simp] theorem BillingEvent.payment?_rename (ev : BillingEvent) :
    (ev.rename σ).payment? = ev.payment?.map σ := by
  cases ev <;> rfl

@[simp] theorem BillingEvent.charge?_rename (ev : BillingEvent) :
    (ev.rename σ).charge? = ev.charge? := by
  cases ev <;> rfl

theorem BillingEvent.rename_of_charge? {ev : BillingEvent} {i : Ident} (h : ev.charge? = some i) :
    ev.rename σ = ev := by
  cases ev with
  | paymentStatusChanged => cases h
  | chargeStateChanged => rfl

theorem Gateway.charge_rename_next (g : Gateway) (p : Payment) (t : String) :
    (g.charge (p.rename σ) t).2.1 = (g.charge p t).2.1 := by
  rcases g with ⟨_, _, _, _, _, _, _, _, answering⟩
  cases answering with
  | manual => rfl
  | scripted rs => cases rs <;> rfl
  | answers reply => rfl

theorem Gateway.charge_rename_call (g : Gateway) (p : Payment) (t : String) :
    (g.charge (p.rename σ) t).2.2 = (g.charge p t).2.2.map (·.rename σ) := by
  rcases g with ⟨_, _, _, _, _, _, _, _, answering⟩
  cases answering with
  | manual => rfl
  | scripted rs => cases rs <;> rfl
  | answers reply => rfl

section Keyed

variable {α β : Type} (key : α → Ident) (key' : β → Ident)

theorem map_modifyFirst_of (m : α → β) (hkey : ∀ x, key' (m x) = key x) {f : α → α} {g : β → β}
    (hf : ∀ x, m (f x) = g (m x)) (k : Ident) (l : List α) :
    (modifyFirst key k f l).map m = modifyFirst key' k g (l.map m) := by
  induction l with
  | nil => rfl
  | cons y ys ih =>
    by_cases hy : key y = k
    · simp [modifyFirst, hy, hkey, hf]
    · simp [modifyFirst, hy, hkey, ih]

end Keyed

namespace Write

variable (w : Write)

theorem onRows_rename (t : Instant) (rows : List ChargeRow) :
    (w.onRows t rows).map (·.rename σ) = (w.rename σ).onRows t (rows.map (·.rename σ)) := by
  cases w with
  | save c =>
    exact map_modifyFirst_of (fun r : ChargeRow => r.charge.id) (fun r : ChargeRow => r.charge.id)
      (ChargeRow.rename σ) (fun _ => rfl) (f := fun r => { r with charge := r.charge.savedOver c t })
      (g := fun r => { r with charge := r.charge.savedOver (c.rename σ) t }) (fun _ => rfl) c.id rows
  | _ => rfl

theorem onPayments_rename (t : Instant) (f : Ident → Option Payment) :
    (fun i => (w.onPayments t f (σ.symm i)).map (·.rename σ)) =
      (w.rename σ).onPayments t (fun i => (f (σ.symm i)).map (·.rename σ)) := by
  funext i
  cases w with
  | create p =>
    by_cases hp : p.id = σ.symm i
    · cases f (σ.symm i) <;> simp [onPayments, rename, hp]
    · have hi : σ p.id ≠ i := fun h => hp (by rw [← h, Equiv.symm_apply_apply])
      cases f (σ.symm i) <;> simp [onPayments, rename, hp, hi]
  | status id sw =>
    by_cases hid : id = σ.symm i
    · simp [onPayments, rename, hid, Function.comp_def, Payment.rename_write]
    · have hi : σ id ≠ i := fun h => hid (by rw [← h, Equiv.symm_apply_apply])
      simp [onPayments, rename, hid, hi]
  | _ => rfl

theorem onAudit_rename (f : Ident → List AuditEntry) :
    (fun i => (w.onAudit f (σ.symm i)).map (·.rename σ)) =
      (w.rename σ).onAudit (fun i => (f (σ.symm i)).map (·.rename σ)) := by
  funext i
  cases w with
  | audit a =>
    by_cases ha : a.payment = σ.symm i
    · simp [onAudit, rename, AuditEntry.rename, ha]
    · have hi : σ a.payment ≠ i := fun h => ha (by rw [← h, Equiv.symm_apply_apply])
      simp [onAudit, rename, AuditEntry.rename, ha, hi]
  | _ => rfl

end Write

namespace Heard

theorem rename_addEvent (h : Heard) (ev : BillingEvent) :
    (h.addEvent ev).rename σ = (h.rename σ).addEvent (ev.rename σ) := by
  ext1 <;> funext i <;> simp only [rename, addEvent, BillingEvent.payment?_rename,
    BillingEvent.charge?_rename]
  · by_cases hp : ev.payment? = some (σ.symm i)
    · simp [hp]
    · have hi : ev.payment?.map σ ≠ some i := fun h => hp (by
        rw [Option.map_eq_some_iff] at h
        obtain ⟨j, hj, rfl⟩ := h
        rw [hj, Equiv.symm_apply_apply])
      simp [hp, hi]
  · by_cases hc : ev.charge? = some i
    · simp [hc, BillingEvent.rename_of_charge? hc]
    · simp [hc]

theorem rename_addMessage (h : Heard) (m : StatusMessage) :
    (h.addMessage m).rename σ = (h.rename σ).addMessage (m.rename σ) := by
  ext1 <;> funext i <;> simp only [rename, addMessage]
  by_cases hm : m.payment = σ.symm i
  · simp [StatusMessage.rename, hm]
  · have hi : σ m.payment ≠ i := fun h => hm (by rw [← h, Equiv.symm_apply_apply])
    simp [StatusMessage.rename, hm, hi]

end Heard

namespace Write

variable (w : Write)

theorem onJournal_rename (o : Outlets) (h : Heard) :
    (w.onJournal o h).rename σ = (w.rename σ).onJournal o (h.rename σ) := by
  cases w <;> simp only [onJournal, rename] <;> split_ifs <;>
    simp only [Heard.rename_addEvent, Heard.rename_addMessage]

theorem onRecorded_rename (o : Outlets) (h : Heard) :
    (w.onRecorded o h).rename σ = (w.rename σ).onRecorded o (h.rename σ) := by
  cases w <;> simp only [onRecorded, rename] <;> split_ifs <;>
    simp only [Heard.rename_addEvent, Heard.rename_addMessage]

@[simp] theorem onCounter_rename (o : Outlets) : (w.rename σ).onCounter o = w.onCounter o := by
  cases w <;> rfl

@[simp] theorem onGateway_rename : (w.rename σ).onGateway = w.onGateway := by
  cases w with
  | charge g p c =>
    funext f x
    simp only [rename, onGateway, Charge.rename_token, Gateway.charge_rename_next]
  | _ => rfl

@[simp] theorem opened_rename : (w.rename σ).opened = w.opened := by
  cases w <;> rfl

theorem calls_rename : (w.rename σ).calls = w.calls.map (·.rename σ) := by
  cases w with
  | charge g p c =>
    simp only [rename, calls, Charge.rename_token, Gateway.charge_rename_call]
    cases (g.charge p c.token).2.2 <;> rfl
  | _ => rfl

theorem charges_rename (hw : w.KeepsReply σ) : (w.rename σ).charges = w.charges.map (·.rename σ) := by
  cases w with
  | charge g p c =>
    simp only [rename, charges, Charge.rename_id, Charge.rename_token]
    rw [show (g.charge (p.rename σ) c.token).1 = (g.charge p c.token).1 from hw]
    rfl
  | _ => rfl

end Write

namespace Observed

theorem rename_write {w : Write} (hw : w.KeepsReply σ) (o : Observed) :
    (o.write w).rename σ = (o.rename σ).write (w.rename σ) := by
  ext1 <;> simp only [write, rename]
  · exact (congrFun (w.onGateway_rename (σ := σ)) _).symm
  · exact w.onRows_rename _ _
  · rw [w.opened_rename]
  · exact w.onPayments_rename _ _
  · exact w.onAudit_rename _
  · exact w.onJournal_rename _ _
  · exact w.onRecorded_rename _ _
  · rw [Multiset.map_add, Multiset.map_coe, w.calls_rename]
  · rw [Multiset.map_add, Multiset.map_coe, w.charges_rename hw]
  · rw [w.onCounter_rename]

theorem rename_writeAll {ws : List Write} (hws : ∀ w ∈ ws, w.KeepsReply σ) (o : Observed) :
    (o.writeAll ws).rename σ = (o.rename σ).writeAll (ws.map (·.rename σ)) := by
  induction ws generalizing o with
  | nil => rfl
  | cons w ws ih =>
    rw [writeAll_cons, ih (fun w hw => hws w (by simp [hw])),
      rename_write (hws w (List.mem_cons_self ..)), List.map_cons, writeAll_cons]

end Observed

/-! Renamings compose. -/

@[simp] theorem Payment.rename_refl (p : Payment) : p.rename (Equiv.refl _) = p := by
  cases p; simp [Payment.rename]
@[simp] theorem ChargeRow.rename_refl (r : ChargeRow) : r.rename (Equiv.refl _) = r := by
  rcases r with ⟨c, n⟩; cases c; simp [ChargeRow.rename, Charge.rename]
@[simp] theorem AuditEntry.rename_refl (a : AuditEntry) : a.rename (Equiv.refl _) = a := rfl
@[simp] theorem BillingEvent.rename_refl (ev : BillingEvent) : ev.rename (Equiv.refl _) = ev := by
  cases ev <;> rfl
@[simp] theorem StatusMessage.rename_refl (m : StatusMessage) : m.rename (Equiv.refl _) = m := rfl
@[simp] theorem GatewayCall.rename_refl (call : GatewayCall) :
    call.rename (Equiv.refl _) = call := rfl
@[simp] theorem GatewayCharge.rename_refl (k : GatewayCharge) : k.rename (Equiv.refl _) = k := rfl

@[simp] theorem Payment.rename_rename (p : Payment) : (p.rename σ).rename τ = p.rename (σ.trans τ) := by
  simp [Payment.rename, Option.map_map, Function.comp_def]
@[simp] theorem ChargeRow.rename_rename (r : ChargeRow) :
    (r.rename σ).rename τ = r.rename (σ.trans τ) := by
  simp [ChargeRow.rename, Charge.rename, Option.map_map, Function.comp_def]
@[simp] theorem AuditEntry.rename_rename (a : AuditEntry) :
    (a.rename σ).rename τ = a.rename (σ.trans τ) := rfl
@[simp] theorem BillingEvent.rename_rename (ev : BillingEvent) :
    (ev.rename σ).rename τ = ev.rename (σ.trans τ) := by
  cases ev <;> rfl
@[simp] theorem StatusMessage.rename_rename (m : StatusMessage) :
    (m.rename σ).rename τ = m.rename (σ.trans τ) := rfl
@[simp] theorem GatewayCall.rename_rename (call : GatewayCall) :
    (call.rename σ).rename τ = call.rename (σ.trans τ) := rfl
@[simp] theorem GatewayCharge.rename_rename (k : GatewayCharge) :
    (k.rename σ).rename τ = k.rename (σ.trans τ) := rfl

namespace Heard

theorem rename_refl (h : Heard) : h.rename (Equiv.refl _) = h := by
  ext1 <;> funext i <;> simp [rename, BillingEvent.rename_refl, StatusMessage.rename_refl]

theorem rename_rename (h : Heard) : (h.rename σ).rename τ = h.rename (σ.trans τ) := by
  ext1 <;> funext i <;>
    simp [rename, BillingEvent.rename_rename, StatusMessage.rename_rename, List.map_map,
      Function.comp_def]

end Heard

namespace Observed

theorem rename_refl (o : Observed) : o.rename (Equiv.refl _) = o := by
  ext1 <;> simp [rename, Heard.rename_refl, ChargeRow.rename_refl, Payment.rename_refl,
    AuditEntry.rename_refl, GatewayCall.rename_refl, GatewayCharge.rename_refl]

theorem rename_rename (o : Observed) : (o.rename σ).rename τ = o.rename (σ.trans τ) := by
  ext1 <;> simp [rename, Heard.rename_rename, ChargeRow.rename_rename, Payment.rename_rename,
    AuditEntry.rename_rename, GatewayCall.rename_rename, GatewayCharge.rename_rename, List.map_map,
    Multiset.map_map, Option.map_map, Function.comp_def]

end Observed

end Rename

end Rebill
