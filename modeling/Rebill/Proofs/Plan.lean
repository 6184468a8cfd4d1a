import Rebill.Proofs.Writes

/-!
# Processing an attempt, computed in advance

A `Plan` is a run written down before it happens: the writes it makes, in order, and then its
value or its billing error, or the overflow that ends it. `Sim m p e` says that running the
operation `m` from the engine `e` is making the writes of `p` there and ending as `p` ends. The
binds, handlers and locks of the operations are matched by `Sim.bind`, `Sim.recover` and
`Sim.withLock`, and every operation that `Run.process` uses has its plan and a `sim_*` lemma, so
that the lemma for `process` steps through the definition once and never unfolds a callee.

Nothing in a plan reads the engine: what the operation reads is passed in, the attempt as it is
when the step runs (`cur`), the payment, the clock. Which values those are is each lemma's
hypothesis about the engine.
-/

namespace Rebill

/-- A run computed in advance: an overflow, or the writes it makes, in order, followed by its
value or its billing error. -/
structure Plan (α : Type) where
  run : Except Overflow (Except BillingError α × List Write)

namespace Plan

variable {α β : Type}

protected def pure (a : α) : Plan α := ⟨.ok (.ok a, [])⟩

/-- The plan that makes the writes of `p`, then those of `f` at its value. -/
protected def bind (p : Plan α) (f : α → Plan β) : Plan β :=
  match p with
  | ⟨.ok (.ok a, ws)⟩ => ⟨(f a).run.map fun rw => (rw.1, ws ++ rw.2)⟩
  | ⟨.ok (.error err, ws)⟩ => ⟨.ok (.error err, ws)⟩
  | ⟨.error o⟩ => ⟨.error o⟩

instance : Monad Plan where
  pure := Plan.pure
  bind := Plan.bind

/-- The plan that fails with a billing error and writes nothing. -/
def fail (err : BillingError) : Plan α := ⟨.ok (.error err, [])⟩

def write (w : Write) : Plan Unit := ⟨.ok (.ok (), [w])⟩

/-- A step of time arithmetic: its instant, or the overflow that ends everything. -/
def time (r : Except Overflow α) : Plan α :=
  match r with
  | .ok a => ⟨.ok (.ok a, [])⟩
  | .error o => ⟨.error o⟩

/-- A value that may be missing, and the error when it is. -/
def found (x : Option α) (err : BillingError) : Plan α :=
  match x with
  | some a => ⟨.ok (.ok a, [])⟩
  | none => fail err

/-- The plan that goes on with the handler after a billing error, keeping the writes made before
it. -/
def recover (p : Plan α) (h : BillingError → Plan α) : Plan α :=
  match p with
  | ⟨.ok (.error err, ws)⟩ => ⟨(h err).run.map fun rw => (rw.1, ws ++ rw.2)⟩
  | p => p

@[simp] theorem run_pure (a : α) : (pure a : Plan α).run = .ok (.ok a, []) := rfl
@[simp] theorem run_fail (err : BillingError) : (fail err : Plan α).run = .ok (.error err, []) := rfl
@[simp] theorem run_write (w : Write) : (write w).run = .ok (.ok (), [w]) := rfl

theorem run_bind (p : Plan α) (f : α → Plan β) :
    (p >>= f).run = match p.run with
      | .ok (.ok a, ws) => (f a).run.map fun rw => (rw.1, ws ++ rw.2)
      | .ok (.error err, ws) => .ok (.error err, ws)
      | .error o => .error o := by
  rcases p with ⟨o | ⟨_ | a, ws⟩⟩ <;> rfl

theorem run_recover (p : Plan α) (h : BillingError → Plan α) :
    (p.recover h).run = match p.run with
      | .ok (.error err, ws) => (h err).run.map fun rw => (rw.1, ws ++ rw.2)
      | r => r := by
  rcases p with ⟨o | ⟨_ | a, ws⟩⟩ <;> rfl

@[simp] theorem pure_bind (a : α) (f : α → Plan β) : (pure a : Plan α) >>= f = f a := by
  show Plan.bind (Plan.pure a) f = f a
  simp only [Plan.bind, Plan.pure]
  rcases f a with ⟨o | ⟨r, ws⟩⟩ <;> rfl

@[simp] theorem fail_bind (err : BillingError) (f : α → Plan β) : (fail err : Plan α) >>= f = fail err :=
  rfl

@[simp] theorem found_some (a : α) (err : BillingError) : found (some a) err = pure a := rfl

@[simp] theorem time_ok (a : α) : time (.ok a) = pure a := rfl

theorem map_eq_bind (f : α → β) (p : Plan α) : f <$> p = p >>= fun a => pure (f a) := rfl

theorem time_error_bind (o : Overflow) (f : α → Plan β) : time (.error o) >>= f = ⟨.error o⟩ := rfl

end Plan

/-! ## Running an operation is making the writes of its plan -/

namespace Engine

variable (e : Engine)

theorem write_withHeld (h : List String) (w : Write) :
    ({ e with held := h } : Engine).write w = { e.write w with held := h } := by
  cases w with
  | announce ev op =>
    simp only [write, announce]
    cases e.outlets.sink <;> (try cases e.outlets.eventsFail) <;> rfl
  | post m op =>
    simp only [write, post]
    cases e.outlets.sink <;> (try cases e.outlets.queueFails) <;> rfl
  | _ => rfl

theorem writeAll_withHeld (h : List String) (ws : List Write) :
    ({ e with held := h } : Engine).writeAll ws = { e.writeAll ws with held := h } := by
  induction ws generalizing e with
  | nil => rfl
  | cons w ws ih => rw [writeAll_cons, write_withHeld, ih, writeAll_cons]

end Engine

/-- Running `m` from `e` makes the writes of `p` and ends as `p` ends. -/
def Sim {α : Type} (m : Svc α) (p : Plan α) (e : Engine) : Prop :=
  m.exec e = p.run.map fun rw => (rw.1, e.writeAll rw.2)

namespace Sim

open Svc

variable {α β : Type} {e : Engine}

theorem pure (a : α) : Sim (pure a : Svc α) (pure a) e := rfl

theorem throw (err : BillingError) : Sim (throw err : Svc α) (Plan.fail err) e := rfl

theorem bind {m : Svc α} {f : α → Svc β} {p : Plan α} {g : α → Plan β} (hm : Sim m p e)
    (hf : ∀ a ws, p.run = .ok (.ok a, ws) → Sim (f a) (g a) (e.writeAll ws)) :
    Sim (m >>= f) (p >>= g) e := by
  unfold Sim at hm ⊢
  rw [exec_bind, hm, Plan.run_bind]
  rcases hp : p.run with o | ⟨_ | a, ws⟩
  · rfl
  · rfl
  · simp only [Except.map]
    rw [hf a ws hp]
    rcases (g a).run with o | ⟨r, ws'⟩
    · rfl
    · simp [Except.map, Engine.writeAll_append]

theorem bind_read {m : Svc α} {f : α → Svc β} {q : Plan β} {a : α} (hm : m.exec e = .ok (.ok a, e))
    (hf : Sim (f a) q e) : Sim (m >>= f) q e := by
  unfold Sim at hf ⊢
  rw [exec_bind_ok hm, hf]

theorem time (r : Except Overflow α) : Sim (time r) (Plan.time r) e := by
  cases r <;> rfl

theorem bind_found {m : Svc α} {f : α → Svc β} {x : Option α} {err : BillingError} {g : α → Plan β}
    (hm : Sim m (Plan.found x err) e) (hf : ∀ a, x = some a → Sim (f a) (g a) e) :
    Sim (m >>= f) (Plan.found x err >>= g) e := by
  refine bind hm fun a ws h => ?_
  cases x with
  | none => cases h
  | some a' =>
    simp only [Plan.found, Except.ok.injEq, Prod.mk.injEq, Except.ok.injEq] at h
    obtain ⟨rfl, rfl⟩ := h
    exact hf a' rfl

theorem bind_time {r : Except Overflow α} {f : α → Svc β} {g : α → Plan β}
    (hf : ∀ a, r = .ok a → Sim (f a) (g a) e) : Sim (Svc.time r >>= f) (Plan.time r >>= g) e := by
  refine bind (time r) fun a ws h => ?_
  cases r with
  | error o => cases h
  | ok a' =>
    simp only [Plan.time, Except.ok.injEq, Prod.mk.injEq] at h
    obtain ⟨rfl, rfl⟩ := h
    exact hf a' rfl

theorem recover {m : Svc α} {h : BillingError → Svc α} {p : Plan α} {q : BillingError → Plan α}
    (hm : Sim m p e) (hh : ∀ err ws, p.run = .ok (.error err, ws) → Sim (h err) (q err) (e.writeAll ws)) :
    Sim (tryCatch m h) (p.recover q) e := by
  unfold Sim at hm ⊢
  rw [exec_tryCatch, hm, Plan.run_recover]
  rcases hp : p.run with o | ⟨_ | a, ws⟩
  · rfl
  · simp only [Except.map]
    rw [hh _ ws hp]
    rcases (q _).run with o | ⟨r, ws'⟩
    · rfl
    · simp [Except.map, Engine.writeAll_append]
  · rfl

theorem map {m : Svc α} {p : Plan α} (f : α → β) (hm : Sim m p e) : Sim (f <$> m) (f <$> p) e := by
  unfold Sim at hm ⊢
  rw [exec_map, hm]
  show _ = (p >>= fun a => (Plan.pure (f a))).run.map _
  rw [Plan.run_bind]
  rcases p.run with o | ⟨_ | a, ws⟩ <;> simp [Except.map, Plan.pure]

theorem count (k : Counter) : Sim (count k) (Plan.write (.tally k)) e := rfl

theorem emit (ev : BillingEvent) (op : String) : Sim (emit ev op) (Plan.write (.announce ev op)) e := by
  unfold Sim
  rw [exec_emit]
  rfl

theorem publish (m : StatusMessage) (op : String) :
    Sim (publish m op) (Plan.write (.post m op)) e := by
  unfold Sim
  rw [exec_publish]
  rfl

theorem withLock {key : String} {body : Svc α} {p : Plan α} (hkey : key ∉ e.held)
    (h : Sim body p { e with held := key :: e.held }) : Sim (withLock key body) p e := by
  unfold Sim at h ⊢
  rw [exec_withLock, if_neg hkey, h]
  rcases p.run with o | ⟨r, ws⟩
  · rfl
  · simp only [Except.map, Engine.writeAll_withHeld, List.erase_cons_head]
    conv => lhs; rw [← Engine.writeAll_held e ws]

theorem requireGateway (id : String) :
    Sim (requireGateway id) (Plan.found (e.gateways.get? id) (.gateway (GatewayRegistry.unknown id)))
      e := by
  unfold Sim
  rw [exec_requireGateway]
  cases e.gateways.get? id <;> rfl

end Sim

/-! ## The store's steps -/

section Keyed

variable {γ : Type} (key : γ → Ident)

theorem modifyFirst_eq_of_find? {k : Ident} {f g : γ → γ} {l : List γ} {y : γ}
    (hy : l.find? (key · == k) = some y) (hfg : f y = g y) :
    modifyFirst key k f l = modifyFirst key k g l := by
  induction l with
  | nil => cases hy
  | cons x xs ih =>
    by_cases hx : key x = k
    · have hxy : x = y := by simpa [List.find?_cons, hx] using hy
      subst hxy
      simp [modifyFirst, hx, hfg]
    · have hy' : xs.find? (key · == k) = some y := by simpa [List.find?_cons, hx] using hy
      simp [modifyFirst, hx, ih hy']

theorem filter_map_modifyFirst {β : Type} {k : Ident} {f : γ → γ} {m : γ → β} {P : β → Bool}
    (h : ∀ y, key y = k → P (m y) = false ∧ P (m (f y)) = false) :
    ∀ l : List γ, ((modifyFirst key k f l).map m).filter P = (l.map m).filter P
  | [] => rfl
  | y :: ys => by
    by_cases hy : key y = k
    · simp [modifyFirst, hy, (h y hy).1, (h y hy).2]
    · simp [modifyFirst, hy, List.filter_cons, filter_map_modifyFirst h ys]

end Keyed

namespace Store

variable (s : Store)

theorem withToken_savedOver (r c : Charge) (t : Instant) :
    s.withToken (r.savedOver c t) = (s.withToken r).savedOver c t := by
  simp [withToken_eq, Charge.savedOver]

theorem charge?_congr {s' : Store} (hrows : s'.rows = s.rows) (hmethods : s'.methods = s.methods) :
    s'.charge? = s.charge? := by
  funext x
  simp only [charge?, row?, hrows, withToken_congr s hmethods]

end Store

namespace Engine

variable (e : Engine)

@[simp] theorem store_write_tally (k : Counter) : (e.write (.tally k)).store = e.store := rfl
@[simp] theorem store_write_announce (ev : BillingEvent) (op : String) :
    (e.write (.announce ev op)).store = e.store := announce_store e ev op
@[simp] theorem store_write_post (m : StatusMessage) (op : String) :
    (e.write (.post m op)).store = e.store := post_store e m op
@[simp] theorem store_write_charge (g : Gateway) (p : Payment) (c : Charge) :
    (e.write (.charge g p c)).store = e.store := rfl
@[simp] theorem store_write_audit (a : AuditEntry) :
    (e.write (.audit a)).store = e.store.appendAudit a := rfl

@[simp] theorem charge?_appendAudit (s : Store) (a : AuditEntry) : (s.appendAudit a).charge? = s.charge? :=
  rfl
@[simp] theorem payment?_appendAudit (s : Store) (a : AuditEntry) :
    (s.appendAudit a).payment? = s.payment? := rfl

@[simp] theorem charge?_write_create (p : Payment) :
    (e.write (.create p)).store.charge? = e.store.charge? := rfl
@[simp] theorem charge?_write_status (id : Ident) (w : StatusWrite) :
    (e.write (.status id w)).store.charge? = e.store.charge? := rfl
@[simp] theorem payment?_write_save (c : Charge) :
    (e.write (.save c)).store.payment? = e.store.payment? := rfl

variable {e}

theorem saveCharge_eq_write {c cur : Charge} (hc : e.store.charge? c.id = some cur) :
    e.store.saveCharge c e.now = .ok (cur.savedOver c e.now, (e.write (.save c)).store) := by
  obtain ⟨r, hr, rfl⟩ := (Store.charge?_eq_some e.store).mp hc
  refine (Store.saveCharge_eq_ok e.store).mpr ⟨r, hr, ?_⟩
  rw [Store.withToken_savedOver]
  simp only [Engine.write, Prod.mk.injEq, true_and]
  congr 1
  exact modifyFirst_eq_of_find? _ hr rfl

theorem charge?_write_save {c cur : Charge} (hc : e.store.charge? c.id = some cur) (x : Ident) :
    (e.write (.save c)).store.charge? x =
      if c.id = x then some (cur.savedOver c e.now) else e.store.charge? x :=
  Store.charge?_saveCharge e.store (saveCharge_eq_write hc) x

theorem savePaymentStatus_eq_write {id : Ident} {p : Payment} (hp : e.store.payment? id = some p)
    (w : StatusWrite) :
    e.store.savePaymentStatus id w e.now = .ok (p.write w e.now, (e.write (.status id w)).store) := by
  refine (Store.savePaymentStatus_eq_ok e.store).mpr ⟨p, hp, ?_⟩
  simp only [Engine.write, Prod.mk.injEq, true_and]
  congr 1
  exact modifyFirst_eq_of_find? _ hp rfl

theorem payment?_write_status {id : Ident} {p : Payment} (hp : e.store.payment? id = some p)
    (w : StatusWrite) (x : Ident) :
    (e.write (.status id w)).store.payment? x = if id = x then some (p.write w e.now) else e.store.payment? x := by
  rw [← Store.payment?_modifyFirst e.store hp (p.write w e.now) rfl x]
  simp only [Engine.write]
  congr 2
  exact modifyFirst_eq_of_find? _ hp rfl

end Engine

namespace Plan

def lift {α : Type} (r : Except Overflow (Except BillingError α)) : Plan α := ⟨r.map (·, [])⟩

/-- Saving `c` over the stored attempt `cur`: the save, and the attempt read back. -/
def save (cur c : Charge) (t : Instant) : Plan Charge := do
  write (.save c)
  pure (cur.savedOver c t)

/-- The locked part of `update` on the attempt `cur`: the change, and the save. -/
def updateLocked (cur : Charge) (change : Except Overflow (Except BillingError Charge)) (t : Instant) :
    Plan (ChargeState × Charge) := do
  let c ← lift change
  let saved ← save cur c t
  pure (cur.state, saved)

/-- `update` on the attempt `cur`, with a change known in advance: the save, and the change of
state announced. -/
def update (cur : Charge) (change : Except Overflow (Except BillingError Charge)) (t : Instant) :
    Plan Charge := do
  let (old, c) ← updateLocked cur change t
  if old != c.state then write (.announce (.chargeStateChanged cur.id old c.state) "transition")
  pure c

end Plan

namespace Sim

open Svc Attempts

variable {α : Type} {e : Engine}

theorem lift {m : Svc α} {r : Except Overflow (Except BillingError α)} (h : m.exec e = r.map (·, e)) :
    Sim m (Plan.lift r) e := by
  unfold Sim Plan.lift
  rw [h]
  cases r <;> rfl

theorem save {c cur : Charge} {now : Instant} (hc : e.store.charge? c.id = some cur)
    (ht : e.now = now) : Sim (stored (e.store.saveCharge c e.now)) (Plan.save cur c now) e := by
  subst ht
  unfold Sim
  rw [exec_stored, Engine.saveCharge_eq_write hc]
  rfl

theorem get {id : Ident} {cur : Charge} (hc : e.store.charge? id = some cur) :
    (get id).exec e = .ok (.ok cur, e) := by
  rw [Attempts.exec_get, hc]

theorem updateLocked {id : Ident} {change : Charge → Svc Charge} {cur : Charge}
    {r : Except Overflow (Except BillingError Charge)} (hc : e.store.charge? id = some cur)
    (hch : Sim (change cur) (Plan.lift r) e) (hid : ∀ c, r = .ok (.ok c) → c.id = id) {now : Instant}
    (ht : e.now = now) : Sim (updateLocked id change) (Plan.updateLocked cur r now) e := by
  subst ht
  unfold Attempts.updateLocked Plan.updateLocked
  refine bind_read (get hc) (bind hch fun c ws hr => ?_)
  have hws : ws = [] := by cases r <;> cases hr; rfl
  have hcr : r = .ok (.ok c) := by cases r with
    | error o => cases hr
    | ok x => cases x <;> cases hr; rfl
  subst hws
  have hc' : e.store.charge? c.id = some cur := by rw [hid c hcr]; exact hc
  exact bind_read (exec_store _) (bind_read (exec_now _) (bind (save hc' rfl) fun _ _ _ => pure _))

theorem update {id : Ident} {change : Charge → Svc Charge} {cur : Charge}
    {r : Except Overflow (Except BillingError Charge)} (hkey : chargeKey id ∉ e.held)
    (hc : e.store.charge? id = some cur)
    (hch : ∀ e' : Engine, e'.now = e.now → Sim (change cur) (Plan.lift r) e')
    (hid : ∀ c, r = .ok (.ok c) → c.id = id) {now : Instant} (ht : e.now = now) :
    Sim (update id change) (Plan.update cur r now) e := by
  subst ht
  have hcid : cur.id = id := Store.id_of_charge? e.store hc
  unfold Attempts.update Plan.update
  refine bind (withLock hkey (updateLocked (e := { e with held := chargeKey id :: e.held }) hc
    (hch _ rfl) hid rfl)) fun ⟨old, c⟩ ws _ => ?_
  dsimp only
  split
  · rw [← hcid]
    exact bind (emit _ _) fun _ _ _ => pure c
  · exact pure c

end Sim

/-! ## The operations of a run -/

namespace Plan

/-- The change `transition` makes to the attempt `c`: the move, when the table allows it. -/
def moveChange (c : Charge) (t : ChargeState) (actor : Actor) (u : ChargeUpdate) :
    Except Overflow (Except BillingError Charge) :=
  if c.state.allows t actor then .ok (.ok (c.moveTo t u)) else .ok (.error (.illegalTransition c.state t))

theorem moveChange_id {c v : Charge} {t : ChargeState} {actor : Actor} {u : ChargeUpdate}
    (h : moveChange c t actor u = .ok (.ok v)) : v.id = c.id := by
  unfold moveChange at h
  split at h
  · cases h
    exact Charge.moveTo_id ..
  · cases h

def transition (cur : Charge) (t : ChargeState) (actor : Actor) (u : ChargeUpdate) (now : Instant) :
    Plan Charge :=
  update cur (moveChange cur t actor u) now

def release (cur : Charge) (now : Instant) : Plan Charge :=
  update cur (.ok (.ok (if cur.state == .active && cur.status == some inFlight then
    { cur with status := none } else cur))) now

/-- Linking the payment `pid` to the stored attempt `cur` unless it has one; the payment the
attempt ends up linked to. -/
def link (cur : Charge) (pid : Ident) (now : Instant) : Plan Ident := do
  let c ← update cur (.ok (.ok (if cur.payment.isNone then { cur with payment := some pid } else cur)))
    now
  pure (c.payment.getD pid)

/-- The change `rearmFailed` makes to the attempt `c` at `now`, with the retry delay. -/
def rearmChange (c : Charge) (delay : Span) (now : Instant) :
    Except Overflow (Except BillingError Charge) :=
  if c.state != .chargeFailed then .ok (.error (.illegalTransition c.state .active))
  else if c.retries ≤ 0 then .ok (.ok (c.pushNote "Retries exhausted"))
  else (shiftBy now delay).map fun due =>
    .ok ({ c with retries := c.retries - 1, state := .active, chargeAt := due, status := none }.pushNote
      ("Retry scheduled, " ++ toString (c.retries - 1) ++ " left"))

def rearm (cur : Charge) (delay : Span) (now : Instant) : Plan Charge :=
  update cur (rearmChange cur delay now) now

/-- The locked part of a status request on the payment `p` as it is: a no-op, a refusal, or the
write of the requested status, each counted. -/
def applyLocked (p : Payment) (u : Ledger.StatusRequest) (t : Instant) :
    Plan (Option (PaymentStatus × PaymentStatus)) :=
  if p.status == u.status then do
    write (.tally (.statusTransition "noop" u.status))
    pure none
  else if p.status.isPaidLike && u.status == .fail then do
    write (.tally (.statusTransition "rejected" u.status))
    pure none
  else do
    write (.status p.id (u.writeOn p t))
    write (.tally (.statusTransition "applied" u.status))
    pure (some (p.status, u.status))

/-- A status request on the payment `p` as it is, announced when it changed the payment. -/
def ledger (p : Payment) (u : Ledger.StatusRequest) (t : Instant) : Plan Bool := do
  match ← applyLocked p u t with
  | none => pure false
  | some (old, new) =>
    write (.announce (.paymentStatusChanged p.id old new u.notify) "update_status")
    write (.post ⟨p.id, u.notify⟩ "update_status")
    pure true

/-- Asking the gateway `g` to charge the payment `p` for the attempt `c`: its reply. -/
def call (g : Gateway) (p : Payment) (c : Charge) : Plan ChargeReply := do
  write (.charge g p c)
  pure (g.charge p c.token).1

/-- Claiming the attempt read as `cur`: the claimed attempt, or `none` when it is not due. -/
def claim (cur : Option Charge) (id : Ident) (now : Instant) (lookahead : Span) :
    Plan (Option Charge) := do
  let c ← found cur (.notFound ("Recurrent charge " ++ id.text))
  let dueBefore ← time (shiftBy now lookahead)
  if c.state != .active || c.status.isSome || decide (c.chargeAt > dueBefore) then pure none
  else some <$> save c { c with status := some inFlight } now

end Plan

namespace Sim

open Svc Attempts

variable {e : Engine}

theorem get_found (id : Ident) :
    Sim (Attempts.get id) (Plan.found (e.store.charge? id) (.notFound ("Recurrent charge " ++ id.text)))
      e := by
  unfold Sim
  rw [Attempts.exec_get]
  cases e.store.charge? id <;> rfl

theorem payment_found (id : Ident) :
    Sim (Attempts.payment id) (Plan.found (e.store.payment? id) (.notFound ("Payment " ++ id.text)))
      e := by
  unfold Sim
  rw [Attempts.exec_payment]
  cases e.store.payment? id <;> rfl

theorem lift_pure {α : Type} (a : α) : Sim (Pure.pure a : Svc α) (Plan.lift (.ok (.ok a))) e := rfl

theorem transition {id : Ident} {cur : Charge} (hkey : chargeKey id ∉ e.held)
    (hc : e.store.charge? id = some cur) (t : ChargeState) (actor : Actor) (u : ChargeUpdate)
    {now : Instant} (ht : e.now = now) :
    Sim (transition id t actor u) (Plan.transition cur t actor u now) e := by
  have hcid : cur.id = id := Store.id_of_charge? e.store hc
  refine update hkey hc (fun e' _ => ?_) ?_ ht
  · unfold Plan.moveChange
    cases cur.state.allows t actor <;> rfl
  · intro c hr
    rw [Plan.moveChange_id hr, hcid]

theorem release {id : Ident} {cur : Charge} (hkey : chargeKey id ∉ e.held)
    (hc : e.store.charge? id = some cur) {now : Instant} (ht : e.now = now) :
    Sim (releaseClaim id) (Plan.release cur now) e := by
  have hcid : cur.id = id := Store.id_of_charge? e.store hc
  refine update hkey hc (fun e' _ => lift_pure (if cur.state == .active && cur.status == some inFlight
    then { cur with status := none } else cur)) ?_ ht
  rintro c ⟨⟩
  split <;> exact hcid

theorem link {id : Ident} {cur : Charge} (hkey : chargeKey id ∉ e.held)
    (hc : e.store.charge? id = some cur) (pid : Ident) {now : Instant} (ht : e.now = now) :
    Sim (linkPayment id pid) (Plan.link cur pid now) e := by
  have hcid : cur.id = id := Store.id_of_charge? e.store hc
  refine bind (update hkey hc (fun e' _ => lift_pure (if cur.payment.isNone then
    { cur with payment := some pid } else cur)) ?_ ht) fun c _ _ => pure _
  rintro c ⟨⟩
  split <;> exact hcid

theorem rearm {id : Ident} {cur : Charge} (hkey : chargeKey id ∉ e.held)
    (hc : e.store.charge? id = some cur) {delay : Span} {now : Instant}
    (hd : e.policy.retryDelay = delay) (ht : e.now = now) :
    Sim (rearmFailed id) (Plan.rearm cur delay now) e := by
  subst hd ht
  have hcid : cur.id = id := Store.id_of_charge? e.store hc
  unfold rearmFailed Plan.rearm
  refine bind_read (exec_policy e) (update hkey hc (fun e' he' => ?_) ?_ rfl)
  · unfold Sim Plan.lift Plan.rearmChange
    by_cases hs : (cur.state != .chargeFailed) = true
    · simp [hs, Except.map]
    · by_cases hr : cur.retries ≤ 0
      · simp [hs, hr, Except.map]
      · rcases hd : shiftBy e.now e.policy.retryDelay with o | due <;>
          simp [hs, hr, hd, he', exec_bind, exec_map, Except.map]
  · intro c hr
    unfold Plan.rearmChange at hr
    split at hr
    · cases hr
    split at hr
    · cases hr
      exact hcid
    · rcases hd : shiftBy e.now e.policy.retryDelay with o | due <;> rw [hd] at hr <;> cases hr
      exact hcid

theorem applyLocked {id : Ident} {p : Payment} (hp : e.store.payment? id = some p)
    (u : Ledger.StatusRequest) {now : Instant} (ht : e.now = now) :
    Sim (Ledger.applyLocked id u) (Plan.applyLocked p u now) e := by
  subst ht
  have hpid : p.id = id := Store.id_of_payment? e.store hp
  unfold Sim Ledger.applyLocked Plan.applyLocked
  rw [exec_bind_ok (by rw [Attempts.exec_payment, hp])]
  by_cases h₁ : (p.status == u.status) = true
  · simp [h₁]
    rfl
  by_cases h₂ : (p.status.isPaidLike && u.status == .fail) = true
  · simp [h₁, h₂]
    rfl
  simp only [h₁, h₂, Bool.false_eq_true, if_false, exec_bind, exec_now, exec_store, exec_stored]
  rw [← hpid, Engine.savePaymentStatus_eq_write (hpid ▸ hp)]
  simp [Ledger.StatusRequest.writeOn]
  rfl

theorem ledger {p : Payment} (hkey : Ledger.paymentKey p.id ∉ e.held)
    (hp : e.store.payment? p.id = some p) (u : Ledger.StatusRequest) {now : Instant} (ht : e.now = now) :
    Sim (Ledger.updateStatus p.id u) (Plan.ledger p u now) e := by
  unfold Ledger.updateStatus Plan.ledger
  refine bind (withLock hkey (applyLocked (e := { e with held := Ledger.paymentKey p.id :: e.held }) hp u
      ht))
    fun r ws _ => ?_
  rcases r with _ | ⟨old, new⟩
  · exact pure false
  · exact bind (emit _ _) fun _ _ _ => bind (publish _ _) fun _ _ _ => pure true

theorem appendLog (pid cid : Ident) (r : GatewayResponse) {now : Instant} (ht : e.now = now) :
    Sim (Run.appendLog pid cid r) (Plan.write (.audit (Run.logEntry pid cid r now))) e := by
  subst ht
  unfold Sim
  rw [Run.exec_appendLog]
  rfl

theorem call (g : Gateway) (p : Payment) (c : Charge) : Sim (Run.callGateway g p c) (Plan.call g p c) e := by
  unfold Sim
  rw [Run.exec_callGateway]
  rfl

theorem claim {id : Ident} (hkey : chargeKey id ∉ e.held) {now : Instant} {lookahead : Span}
    (ht : e.now = now) (hl : e.policy.lookahead = lookahead) :
    Sim (claim id) (Plan.claim (e.store.charge? id) id now lookahead) e := by
  subst ht hl
  unfold Attempts.claim Plan.claim
  refine withLock hkey (bind_found (get_found id) fun c hcur => ?_)
  refine bind_read (exec_now _) (bind_read (exec_policy _) (bind_time fun due _ => ?_))
  split
  · exact pure none
  · have hid : c.id = id := Store.id_of_charge? e.store hcur
    have hc' : ({ e with held := chargeKey id :: e.held } : Engine).store.charge?
        ({ c with status := some inFlight } : Charge).id = some c := by
      show e.store.charge? c.id = some c
      rw [hid]
      exact hcur
    exact bind_read (exec_store _) (bind_read (exec_now _) (map some (save hc' rfl)))

end Sim

/-! ## What the plans of the store's steps write -/

namespace Write

def isSave : Write → Bool
  | .save _ => true
  | _ => false

end Write

namespace Engine

variable (e : Engine)

theorem charge?_writeAll_of_not_save {ws : List Write} (h : ∀ w ∈ ws, w.isSave = false) :
    (e.writeAll ws).store.charge? = e.store.charge? := by
  induction ws generalizing e with
  | nil => rfl
  | cons w ws ih =>
    rw [writeAll_cons, ih _ fun w' hw' => h w' (List.mem_cons_of_mem _ hw')]
    have hw := h w List.mem_cons_self
    refine Store.charge?_congr _ ?_ (write_methods e w)
    cases w with
    | save c => cases hw
    | _ => simp [Write.onRows, Store.appendAudit]

end Engine

namespace Plan

variable {cur v : Charge} {r : Except Overflow (Except BillingError Charge)} {now : Instant}
  {ws : List Write}

theorem run_update_ok (c : Charge) :
    (update cur (.ok (.ok c)) now).run = .ok (.ok (cur.savedOver c now), .save c ::
      if cur.state != (cur.savedOver c now).state then
        [.announce (.chargeStateChanged cur.id cur.state (cur.savedOver c now).state) "transition"]
      else []) := by
  by_cases hs : cur.state = (cur.savedOver c now).state <;>
    simp [update, updateLocked, lift, save, run_bind, hs, Except.map]

theorem update_run (h : (update cur r now).run = .ok (.ok v, ws)) :
    ∃ c, r = .ok (.ok c) ∧ v = cur.savedOver c now ∧
      ws = .save c :: if cur.state != v.state then
        [.announce (.chargeStateChanged cur.id cur.state v.state) "transition"] else [] := by
  rcases r with o | err | c
  · cases h
  · cases h
  · rw [run_update_ok] at h
    simp only [Except.ok.injEq, Prod.mk.injEq] at h
    obtain ⟨rfl, rfl⟩ := h
    exact ⟨c, rfl, rfl, rfl⟩

theorem update_run_error {err : BillingError} (h : (update cur r now).run = .ok (.error err, ws)) :
    ws = [] := by
  rcases r with o | err' | c
  · cases h
  · simp [update, updateLocked, lift, run_bind, Except.map] at h
    exact h.2
  · rw [run_update_ok] at h
    cases h

end Plan

namespace Engine

variable {e : Engine}

theorem charge?_update {cur v : Charge} {r : Except Overflow (Except BillingError Charge)}
    {ws : List Write} (hc : e.store.charge? cur.id = some cur)
    (hid : ∀ c, r = .ok (.ok c) → c.id = cur.id)
    (h : (Plan.update cur r e.now).run = .ok (.ok v, ws)) :
    (e.writeAll ws).store.charge? cur.id = some v := by
  obtain ⟨c, rfl, rfl, rfl⟩ := Plan.update_run h
  have hc' : e.store.charge? c.id = some cur := by rw [hid c rfl]; exact hc
  have hsave := charge?_write_save hc' cur.id
  rw [if_pos (hid c rfl)] at hsave
  split <;> simpa using hsave

theorem charge?_transition {cur v : Charge} {t : ChargeState} {actor : Actor} {u : ChargeUpdate}
    {now : Instant} {ws : List Write} (hc : e.store.charge? cur.id = some cur) (ht : e.now = now)
    (h : (Plan.transition cur t actor u now).run = .ok (.ok v, ws)) :
    (e.writeAll ws).store.charge? cur.id = some v := by
  subst ht
  exact charge?_update hc (fun _ hr => Plan.moveChange_id hr) h

end Engine

/-! ## What processing an attempt reads -/

namespace Observed

/-- The attempts of the observed engine, read as the store reads them. -/
def attempts (o : Observed) : Store := { methods := o.methods, rows := o.rows }

end Observed

/-- What processing the attempt `id` reads of the engine: the clock, the policy and the gateways;
the attempt as read; the instant of the charged attempt the fast-charge guard compares it with; the
payment that would be opened for it, drafted from its parent; and the payment it is linked to. -/
structure View where
  id : Ident
  now : Instant
  policy : Policy
  gateway : String → Option Gateway
  charge : Option Charge
  previous : Option Instant
  draft : Option PaymentDraft
  linked : Option Payment

namespace View

/-- What processing the attempt `id` reads of the observed engine. -/
def of (o : Observed) (id : Ident) : View where
  id := id
  now := o.now
  policy := o.policy
  gateway := o.gateway
  charge := o.attempts.charge? id
  previous := (o.attempts.charge? id).bind fun c =>
    if o.policy.fastChargeThreshold.nanos ≤ 0 then none
    else (o.attempts.lastChargedForMethod c.method c.id).map (·.chargeAt)
  draft := (o.attempts.charge? id).bind fun c => (o.payment c.parent).map (Run.draftFor c)
  linked := (o.attempts.charge? id).bind fun c => c.payment.bind o.payment

variable (v : View)

/-- Whether the fast-charge guard stops the claimed attempt `c`. -/
def stops (c : Charge) : Bool :=
  match v.previous with
  | none => false
  | some t => t == c.chargeAt || decide (c.chargeAt.since t < v.policy.fastChargeThreshold)

/-- Whether a payment is opened for the claimed attempt `c`: the guard lets it through, it has no
payment, and its parent payment is stored. -/
def opens (c : Charge) : Bool := !v.stops c && c.payment.isNone && v.draft.isSome

/-- The claimed attempt `c` as the preparation leaves it: linked to the payment `k` when one is
opened for it. -/
def staged (c : Charge) (k : Ident) : Charge :=
  if v.opens c then c.savedOver { c with payment := some k } v.now else c

/-- The payment the claimed attempt `c` is charged on: the one opened as `k`, or its own. -/
def payment (c : Charge) (k : Ident) : Option Payment :=
  if v.opens c then v.draft.map (Payment.ofDraft k · v.now) else v.linked

variable {v}

theorem draft_of_opens {c : Charge} (h : v.opens c = true) : ∃ d, v.draft = some d := by
  simp only [opens, Bool.and_eq_true, Bool.not_eq_true'] at h
  exact Option.isSome_iff_exists.mp h.2

end View

/-- The view `v` reads the engine `e` as the preparation of the claimed attempt `c` finds it. -/
structure View.Shows (v : View) (e : Engine) (c : Charge) : Prop where
  now : v.now = e.now
  policy : v.policy = e.policy
  gateway : v.gateway = e.gateways.get?
  previous : v.previous = if e.policy.fastChargeThreshold.nanos ≤ 0 then none
    else (e.store.lastChargedForMethod c.method c.id).map (·.chargeAt)
  draft : v.draft = (e.store.payment? c.parent).map (Run.draftFor c)
  linked : v.linked = c.payment.bind e.store.payment?

theorem View.Shows.stops_iff {v : View} {e : Engine} {c : Charge} (h : v.Shows e c) :
    v.stops c = true ↔ 0 < e.policy.fastChargeThreshold.nanos ∧
      ∃ prev, e.store.lastChargedForMethod c.method c.id = some prev ∧
        (prev.chargeAt = c.chargeAt ∨
          (c.chargeAt.since prev.chargeAt).nanos < e.policy.fastChargeThreshold.nanos) := by
  unfold View.stops
  rw [h.previous, h.policy]
  by_cases hθ : e.policy.fastChargeThreshold.nanos ≤ 0
  · simp only [if_pos hθ, Bool.false_eq_true, false_iff, not_and]
    intro hpos
    omega
  rw [if_neg hθ]
  cases hl : e.store.lastChargedForMethod c.method c.id with
  | none => simp
  | some prev =>
    simp only [Option.map_some, Bool.or_eq_true, beq_iff_eq, decide_eq_true_eq, Option.some.injEq,
      exists_eq_left']
    exact ⟨fun hclose => ⟨by omega, hclose⟩, fun h => h.2⟩

/-! ## The plan of processing an attempt -/

namespace Plan

/-- Stopping the stored attempt `cur`, which the guard caught. -/
def stopFast (cur : Charge) (now : Instant) : Plan Run.Prepared := do
  let _ ← transition cur .systemStop .system
    { status := some Run.fastChargeCode, note := some "Fast charge" } now
  return .done .fastCharge

/-- Opening a payment from the draft under the identifier `k`. -/
def create (k : Ident) (d : PaymentDraft) (now : Instant) : Plan Payment := do
  write (.create (Payment.ofDraft k d now))
  pure (Payment.ofDraft k d now)

/-- Opening the payment of the claimed attempt `c` as `k`, drafted as `draft`, and linking it. -/
def openPayment (draft : Option PaymentDraft) (c : Charge) (k : Ident) (now : Instant) : Plan Ident := do
  let d ← found draft (.notFound ("Parent payment " ++ c.parent.text))
  let p ← create k d now
  link c p.id now

/-- The payment the claimed attempt `c` is charged on: its own, or one opened for it. -/
def paymentFor (draft : Option PaymentDraft) (c : Charge) (k : Ident) (now : Instant) : Plan Ident :=
  match c.payment with
  | some pid => pure pid
  | none => openPayment draft c k now

/-- Completing the attempt `c`, stored as `cur`, whose payment `p` is already paid. -/
def completeAlreadyPaid (cur c : Charge) (p : Payment) (now : Instant) : Plan Unit := do
  let _ ← transition cur .charged .system Run.alreadyPaidUpdate now
  write (.audit (Run.logEntry p.id c.id Run.alreadyPaidResponse now))

/-- Completing the attempt `c`, stored as `cur`, when the payment `pid`, read as `found?`, is
already paid; otherwise handing the payment and its gateway over for the call. -/
def completeOrCall (gateway : String → Option Gateway) (c cur : Charge) (pid : Ident)
    (found? : Option Payment) (now : Instant) : Plan Run.Prepared := do
  let p ← found found? (.notFound ("Payment " ++ pid.text))
  if p.status.isPaidLike then
    completeAlreadyPaid cur c p now
    return .done .charged
  return .call p (← found (gateway p.gateway) (.gateway (GatewayRegistry.unknown p.gateway)))

/-- Everything before the gateway call, for the claimed attempt `c`. -/
def prepare (v : View) (c : Charge) (k : Ident) : Plan Run.Prepared :=
  if v.stops c then stopFast c v.now
  else do completeOrCall v.gateway c (v.staged c k) (← paymentFor v.draft c k v.now) (v.payment c k) v.now

/-- Acting on the gateway's reply, for the attempt `c` stored as `cur` and its payment `p`. -/
def reply (delay : Span) (now : Instant) (cur : Charge) (p : Payment) (g : Gateway) :
    ChargeReply → Plan (Run.Outcome × GatewayResponse)
  | .settled r => do
    let _ ← ledger p { status := g.paidStatus, notify := true, paidAt := g.chargedAt r } now
    let _ ← transition cur .charged .system { status := some r.code } now
    pure (.charged, r)
  | .pending r => do
    let _ ← transition cur .pending .system { status := some r.code } now
    pure (.pending, r)
  | .failed ⟨.retryable, r⟩ => do
    let _ ← ledger p { status := .fail, notify := false, errorMessage := some (r.code ++ ": " ++ r.message) }
      now
    let moved ← transition cur .chargeFailed .system { status := some r.code } now
    let _ ← rearm moved delay now
    pure (.failed, r)
  | .failed ⟨.terminal, r⟩ => do
    let _ ← ledger p { status := .fail, notify := true, errorMessage := some (r.code ++ ": " ++ r.message) }
      now
    let _ ← transition cur .systemStop .system
      { status := some r.code, note := some ("Terminal failure: " ++ r.message) } now
    pure (.stopped, r)
  | .failed ⟨.hard, r⟩ => do
    write (.tally (.error "gateway_unhandled" "charge"))
    let _ ← transition cur .active .system
      { status := some r.code, note := some ("Unhandled charge result " ++ r.code ++ ": " ++ r.message) } now
    pure (.unhandled, r)

/-- Processing the attempt `v.id`, with `k` the identifier a payment opened for it takes. -/
def process (v : View) (k : Ident) : Plan Run.Outcome := do
  let some c ← claim v.charge v.id v.now v.policy.lookahead
    | write (.tally (.outcome Run.Outcome.skipped.name)); return .skipped
  let prepared ← (prepare v c k).recover fun err => do
    let _ ← (release (v.staged c k) v.now).recover fun _ => pure c
    fail err
  match prepared with
  | .done o =>
    write (.tally (.outcome o.name))
    pure o
  | .call p g =>
    let answer ← call g p c
    let (o, r) ← reply v.policy.retryDelay v.now (v.staged c k) p g answer
    write (.audit (Run.logEntry p.id c.id r v.now))
    write (.tally (.outcome o.name))
    pure o

end Plan

namespace Sim

open Svc Attempts

variable {α β : Type} {e : Engine} {now : Instant}

theorem bind_found_map {γ : Type} {m : Svc α} {f : α → Svc β} {x : Option α} {φ : α → γ}
    {err : BillingError} {g : γ → Plan β} (hm : Sim m (Plan.found x err) e)
    (hf : ∀ a, x = some a → Sim (f a) (g (φ a)) e) :
    Sim (m >>= f) (Plan.found (x.map φ) err >>= g) e := by
  cases x with
  | none =>
    unfold Sim at hm ⊢
    rw [exec_bind, hm]
    rfl
  | some a =>
    rw [Option.map_some, show Plan.found (some (φ a)) err = Pure.pure (φ a) from rfl, Plan.pure_bind]
    exact bind_read hm (hf a rfl)

theorem stopFast {c cur : Charge} (hkey : chargeKey c.id ∉ e.held) (hc : e.store.charge? c.id = some cur)
    (ht : e.now = now) : Sim (Run.stopFast c) (Plan.stopFast cur now) e :=
  bind (transition hkey hc _ _ _ ht) fun _ _ _ => pure _

theorem parentPayment (c : Charge) :
    Sim (Run.parentPayment c)
      (Plan.found (e.store.payment? c.parent) (.notFound ("Parent payment " ++ c.parent.text))) e := by
  unfold Sim Run.parentPayment
  rw [exec_bind_ok (exec_store e)]
  cases e.store.payment? c.parent <;> rfl

theorem chargedPayment (pid : Ident) :
    Sim (Run.chargedPayment pid) (Plan.found (e.store.payment? pid) (.notFound ("Payment " ++ pid.text)))
      e := by
  unfold Sim Run.chargedPayment
  rw [exec_bind_ok (exec_store e)]
  cases e.store.payment? pid <;> rfl

theorem createFor (c : Charge) (parent : Payment) (ht : e.now = now) :
    Sim (Run.createFor c parent)
      (Plan.create (Ident.ofSerial (e.store.serial + 1)) (Run.draftFor c parent) now) e := by
  subst ht
  unfold Sim Run.createFor Plan.create
  rw [exec_bind_ok (exec_store e), exec_bind_ok (exec_now e)]
  rfl

theorem openPayment {c : Charge} (hkey : chargeKey c.id ∉ e.held) (hc : e.store.charge? c.id = some c)
    (ht : e.now = now) :
    Sim (Run.openPayment c) (Plan.openPayment ((e.store.payment? c.parent).map (Run.draftFor c)) c
      (Ident.ofSerial (e.store.serial + 1)) now) e := by
  unfold Run.openPayment Plan.openPayment
  refine bind_found_map (parentPayment c) fun parent _ =>
    bind (createFor c parent ht) fun p ws hp => ?_
  simp only [Plan.create, Plan.run_bind, Plan.run_write, Plan.run_pure, Except.map,
    Except.ok.injEq, Prod.mk.injEq, List.append_nil] at hp
  obtain ⟨rfl, rfl⟩ := hp
  exact link (by simpa using hkey) (by simpa using hc) _ (by simpa using ht)

theorem paymentFor {c : Charge} (hkey : chargeKey c.id ∉ e.held) (hc : e.store.charge? c.id = some c)
    (ht : e.now = now) :
    Sim (Run.paymentFor c) (Plan.paymentFor ((e.store.payment? c.parent).map (Run.draftFor c)) c
      (Ident.ofSerial (e.store.serial + 1)) now) e := by
  unfold Run.paymentFor Plan.paymentFor
  cases c.payment with
  | some pid => exact pure pid
  | none => exact openPayment hkey hc ht

theorem completeAlreadyPaid {c cur : Charge} {p : Payment} (hkey : chargeKey c.id ∉ e.held)
    (hc : e.store.charge? c.id = some cur) (ht : e.now = now) :
    Sim (Run.completeAlreadyPaid c p) (Plan.completeAlreadyPaid cur c p now) e :=
  bind (transition hkey hc _ _ _ ht) fun _ _ _ => appendLog _ _ _ (by simp [ht])

theorem completeOrCall {c cur : Charge} {pid : Ident} (hkey : chargeKey c.id ∉ e.held)
    (hc : e.store.charge? c.id = some cur) (ht : e.now = now) :
    Sim (Run.completeOrCall c pid)
      (Plan.completeOrCall e.gateways.get? c cur pid (e.store.payment? pid) now) e := by
  unfold Run.completeOrCall Plan.completeOrCall
  refine bind_found (chargedPayment pid) fun p _ => ?_
  split
  · exact bind (completeAlreadyPaid hkey hc ht) fun _ _ _ => pure _
  · exact bind_found (requireGateway _) fun g _ => pure _

end Sim

/-! ## What the preparation wrote -/

namespace Plan

variable {v : View} {draft : Option PaymentDraft} {c cur : Charge} {k pid : Ident} {now : Instant}
  {ws : List Write}

theorem paymentFor_run (h : (paymentFor draft c k now).run = .ok (.ok pid, ws)) :
    (c.payment = some pid ∧ ws = []) ∨
      (c.payment = none ∧ pid = k ∧ ∃ d, draft = some d ∧
        ws = [.create (Payment.ofDraft k d now), .save { c with payment := some k }]) := by
  rcases hp : c.payment with _ | pid₀ <;> simp only [paymentFor, hp] at h
  · right
    rcases draft with _ | d
    · cases h
    · simp [openPayment, found, create, link, run_bind, run_update_ok, hp, Charge.savedOver,
        Except.map] at h
      obtain ⟨rfl, rfl⟩ := h
      exact ⟨rfl, rfl, d, rfl, rfl⟩
  · left
    simp at h
    obtain ⟨rfl, rfl⟩ := h
    exact ⟨rfl, rfl⟩

theorem paymentFor_run_error {err : BillingError} (h : (paymentFor draft c k now).run = .ok (.error err, ws)) :
    c.payment = none ∧ draft = none ∧ ws = [] := by
  rcases hp : c.payment with _ | pid₀ <;> simp only [paymentFor, hp] at h
  · rcases draft with _ | d
    · simp [openPayment, found] at h
      obtain ⟨-, rfl⟩ := h
      exact ⟨rfl, rfl, rfl⟩
    · simp [openPayment, found, create, link, run_bind, run_update_ok, hp, Except.map] at h
  · cases h

theorem completeOrCall_run {gw : String → Option Gateway} {found? : Option Payment}
    {r : Except BillingError Run.Prepared} (h : (completeOrCall gw c cur pid found? now).run = .ok (r, ws))
    (hr : ∀ o, r ≠ .ok (.done o)) :
    ws = [] ∧ ∀ p g, r = .ok (.call p g) → found? = some p ∧ gw p.gateway = some g := by
  rcases found? with _ | p
  · simp [completeOrCall, found] at h
    obtain ⟨rfl, rfl⟩ := h
    exact ⟨rfl, by simp⟩
  by_cases hpaid : p.status.isPaidLike = true
  · simp only [completeOrCall, found, hpaid, if_true, run_bind, completeAlreadyPaid, transition] at h
    rcases hu : (update cur (moveChange cur .charged .system Run.alreadyPaidUpdate) now).run with
      o | ⟨_ | c', ws₁⟩ <;> simp [hu, Except.map] at h
    · obtain ⟨rfl, rfl⟩ := h
      exact ⟨update_run_error hu, by simp⟩
    · exact absurd h.1.symm (hr _)
  · rcases hg : gw p.gateway with _ | g <;>
      simp [completeOrCall, found, hpaid, hg, run_bind, Except.map] at h
    · obtain ⟨rfl, rfl⟩ := h
      exact ⟨rfl, by simp⟩
    · obtain ⟨rfl, rfl⟩ := h
      exact ⟨rfl, by simp [hg]⟩

/-- The writes of a preparation that stopped before the call: the payment drafted from the
parent, opened as `k` and linked, when one is opened. -/
def openWrites (v : View) (c : Charge) (k : Ident) : List Write :=
  if v.opens c then
    (v.draft.map fun d => [.create (Payment.ofDraft k d v.now), .save { c with payment := some k }]).getD []
  else []

theorem prepare_run_call {p : Payment} {g : Gateway}
    (h : (prepare v c k).run = .ok (.ok (.call p g), ws)) :
    v.payment c k = some p ∧ v.gateway p.gateway = some g ∧ ws = openWrites v c k := by
  unfold prepare at h
  split at h
  · simp only [stopFast, transition, run_bind] at h
    rcases hu : (update c (moveChange c .systemStop .system
      { status := some Run.fastChargeCode, note := some "Fast charge" }) v.now).run with
      o | ⟨_ | c', ws₁⟩ <;> simp [hu, Except.map] at h
  rename_i hs
  rw [run_bind] at h
  rcases hpf : (paymentFor v.draft c k v.now).run with o | ⟨_ | pid, ws₁⟩ <;> simp only [hpf] at h
  · cases h
  · cases h
  rcases hcc : (completeOrCall v.gateway c (v.staged c k) pid (v.payment c k) v.now).run with
    o | ⟨r, ws₂⟩ <;> simp only [hcc, Except.map] at h
  · cases h
  simp only [Except.ok.injEq, Prod.mk.injEq] at h
  obtain ⟨rfl, rfl⟩ := h
  obtain ⟨rfl, hcall⟩ := completeOrCall_run hcc (by simp)
  obtain ⟨hfound, hg⟩ := hcall p g rfl
  refine ⟨hfound, hg, ?_⟩
  rcases paymentFor_run hpf with ⟨hpay, rfl⟩ | ⟨hpay, rfl, d, hd, rfl⟩
  · have ho : v.opens c = false := by simp [View.opens, hpay]
    simp [openWrites, ho]
  · have ho : v.opens c = true := by simp_all [View.opens]
    simp [openWrites, ho, hd]

theorem prepare_run_error {err : BillingError} (h : (prepare v c k).run = .ok (.error err, ws)) :
    ws = openWrites v c k := by
  unfold prepare at h
  split at h
  · rename_i hs
    have ho : v.opens c = false := by simp [View.opens, hs]
    simp only [stopFast, transition, run_bind] at h
    rcases hu : (update c (moveChange c .systemStop .system
      { status := some Run.fastChargeCode, note := some "Fast charge" }) v.now).run with
      o | ⟨_ | c', ws₁⟩ <;> simp [hu, Except.map] at h
    · obtain ⟨rfl, rfl⟩ := h
      simp [openWrites, ho, update_run_error hu]
  rename_i hs
  rw [run_bind] at h
  rcases hpf : (paymentFor v.draft c k v.now).run with o | ⟨_ | pid, ws₁⟩ <;> simp only [hpf] at h
  · cases h
  · cases h
    obtain ⟨-, hd, rfl⟩ := paymentFor_run_error hpf
    simp [openWrites, View.opens, hd]
  rcases hcc : (completeOrCall v.gateway c (v.staged c k) pid (v.payment c k) v.now).run with
    o | ⟨r, ws₂⟩ <;> simp only [hcc, Except.map] at h
  · cases h
  simp only [Except.ok.injEq, Prod.mk.injEq] at h
  obtain ⟨rfl, rfl⟩ := h
  obtain ⟨rfl, -⟩ := completeOrCall_run hcc (by simp)
  rcases paymentFor_run hpf with ⟨hpay, rfl⟩ | ⟨hpay, rfl, d, hd, rfl⟩
  · simp [openWrites, View.opens, hpay]
  · have ho : v.opens c = true := by simp_all [View.opens]
    simp [openWrites, ho, hd]

theorem ledger_run {p : Payment} {u : Ledger.StatusRequest} {t : Instant} {b : Bool}
    (h : (ledger p u t).run = .ok (.ok b, ws)) : ∀ w ∈ ws, w.isSave = false := by
  unfold ledger applyLocked at h
  split_ifs at h <;> simp [run_bind, Except.map] at h <;> obtain ⟨-, rfl⟩ := h <;> simp [Write.isSave]

theorem claim_run_some {cur? : Option Charge} {id : Ident} {lookahead : Span}
    (h : (claim cur? id now lookahead).run = .ok (.ok (some c), ws)) :
    ∃ cur, cur? = some cur ∧ c = cur.savedOver { cur with status := some inFlight } now ∧
      ws = [.save { cur with status := some inFlight }] := by
  rcases cur? with _ | cur
  · cases h
  rcases hdue : shiftBy now lookahead with o | due
  · rw [claim, found_some, pure_bind, hdue, time_error_bind] at h
    cases h
  refine ⟨cur, rfl, ?_⟩
  rw [claim, found_some, pure_bind, hdue, time_ok, pure_bind] at h
  by_cases hnot : (cur.state != .active || cur.status.isSome || decide (cur.chargeAt > due)) = true
  · rw [if_pos hnot] at h
    cases h
  · rw [if_neg hnot, map_eq_bind, save, run_bind] at h
    simp only [run_bind, run_write, run_pure, Except.map, List.append_nil, Except.ok.injEq,
      Prod.mk.injEq, Option.some.injEq] at h
    exact ⟨h.1.symm, h.2.symm⟩

theorem run_of_recover {α : Type} {p : Plan α} {h : BillingError → Plan α}
    (hh : ∀ err a ws, (h err).run ≠ .ok (.ok a, ws)) {a : α}
    (hr : (p.recover h).run = .ok (.ok a, ws)) : p.run = .ok (.ok a, ws) := by
  rw [run_recover] at hr
  rcases hp : p.run with o | ⟨err | b, ws₁⟩ <;> rw [hp] at hr
  · exact hr
  · rcases hq : (h err).run with o | ⟨_ | b, ws₂⟩ <;> simp [hq, Except.map] at hr
    exact absurd hq (hh _ _ _)
  · exact hr

theorem run_bind_fail {α β : Type} (m : Plan α) (err : BillingError) (b : β) :
    (m >>= fun _ => fail err).run ≠ .ok (.ok b, ws) := by
  rw [run_bind]
  rcases m.run with o | ⟨_ | a, ws₁⟩ <;> simp [Except.map]

end Plan

namespace Engine

variable {e : Engine}

@[simp] theorem observed_attempts_charge? : e.observed.attempts.charge? = e.store.charge? := rfl

@[simp] theorem observed_attempts_lastChargedForMethod :
    e.observed.attempts.lastChargedForMethod = e.store.lastChargedForMethod := rfl

theorem lastChargedForMethod_write_save (c : Charge) (m : Ident) :
    (e.write (.save c)).store.lastChargedForMethod m c.id = e.store.lastChargedForMethod m c.id := by
  unfold Store.lastChargedForMethod Store.charges
  rw [Store.withToken_congr (s := e.store) rfl]
  congr 1
  exact filter_map_modifyFirst _ (fun r hr => by simp [hr, Charge.savedOver]) _

variable {v : View} {c : Charge} {k : Ident}

theorem charge?_openWrites (hc : e.store.charge? c.id = some c) (ht : e.now = v.now) :
    (e.writeAll (Plan.openWrites v c k)).store.charge? c.id = some (v.staged c k) := by
  unfold Plan.openWrites View.staged
  split
  · rename_i ho
    obtain ⟨d, hd⟩ := View.draft_of_opens ho
    have hc₁ : (e.write (.create (Payment.ofDraft k d v.now))).store.charge?
        { c with payment := some k }.id = some c := by
      simpa using hc
    simpa [hd, ← ht, if_pos rfl] using charge?_write_save hc₁ c.id
  · exact hc

theorem payment?_openWrites {p : Payment} (hv : v.Shows e c) (hfresh : e.store.payment? k = none)
    (hp : v.payment c k = some p) :
    (e.writeAll (Plan.openWrites v c k)).store.payment? p.id = some p := by
  unfold Plan.openWrites
  unfold View.payment at hp
  split
  · rename_i ho
    obtain ⟨d, hd⟩ := View.draft_of_opens ho
    rw [if_pos ho, hd, Option.map_some, Option.some.injEq] at hp
    subst hp
    simp only [Store.payment?] at hfresh
    simp [hd, Engine.write, Store.payment?, List.find?_append, hfresh, Payment.ofDraft]
  · rename_i ho
    rw [if_neg ho, hv.linked, Option.bind_eq_some_iff] at hp
    obtain ⟨pid, -, hpid⟩ := hp
    rw [Store.id_of_payment? _ hpid]
    exact hpid

end Engine

theorem View.shows_claimed {e : Engine} {id : Ident} {cur : Charge} (hc : e.store.charge? id = some cur) :
    (View.of e.observed id).Shows (e.write (.save { cur with status := some inFlight }))
      (cur.savedOver { cur with status := some inFlight } e.now) where
  now := rfl
  policy := rfl
  gateway := rfl
  previous := by
    simp only [View.of, Engine.observed_attempts_charge?, Engine.observed_attempts_lastChargedForMethod,
      hc, Option.bind_some]
    exact congrArg _ (congrArg _ (Engine.lastChargedForMethod_write_save (e := e)
      { cur with status := some inFlight } cur.method).symm)
  draft := by
    simp only [View.of, Engine.observed_attempts_charge?, hc, Option.bind_some, Engine.payment?_write_save]
    rfl
  linked := by
    simp only [View.of, Engine.observed_attempts_charge?, hc, Option.bind_some, Engine.payment?_write_save]
    rfl

namespace Sim

open Svc Attempts

variable {e : Engine}

theorem reply {c cur : Charge} {p : Payment} (hheld : e.held = [])
    (hc : e.store.charge? c.id = some cur) (hp : e.store.payment? p.id = some p) {delay : Span}
    {now : Instant} (hd : e.policy.retryDelay = delay) (ht : e.now = now) (g : Gateway) :
    ∀ a, Sim (Run.applyReply c p g a) (Plan.reply delay now cur p g a) e := by
  have hcur : cur.id = c.id := Store.id_of_charge? e.store hc
  -- the ledger saves no attempt, so the attempt reads as before after it
  have after_ledger : ∀ {u b ws}, (Plan.ledger p u now).run = .ok (.ok b, ws) →
      (e.writeAll ws).store.charge? c.id = some cur := fun h => by
    rw [Engine.charge?_writeAll_of_not_save _ (Plan.ledger_run h)]
    exact hc
  intro a
  rcases a with r | r | ⟨_ | _ | _, r⟩
  · exact bind (ledger (by simp [hheld]) hp _ ht) fun _ _ h =>
      bind (transition (by simp [hheld]) (after_ledger h) _ _ _ (by simp [ht])) fun _ _ _ => pure _
  · exact bind (transition (by simp [hheld]) hc _ _ _ ht) fun _ _ _ => pure _
  · refine bind (ledger (by simp [hheld]) hp _ ht) fun _ ws₁ h₁ => ?_
    refine bind (transition (by simp [hheld]) (after_ledger h₁) _ _ _ (by simp [ht]))
      fun moved ws₂ h₂ => ?_
    have hc₂ : ((e.writeAll ws₁).writeAll ws₂).store.charge? c.id = some moved := by
      rw [← hcur]
      exact Engine.charge?_transition (by rw [hcur]; exact after_ledger h₁) (by simp [ht]) h₂
    exact bind (rearm (by simp [hheld]) hc₂ (by simp [hd]) (by simp [ht])) fun _ _ _ => pure _
  · exact bind (ledger (by simp [hheld]) hp _ ht) fun _ _ h =>
      bind (transition (by simp [hheld]) (after_ledger h) _ _ _ (by simp [ht])) fun _ _ _ => pure _
  · refine bind (count _) fun _ _ h => ?_
    obtain ⟨-, rfl⟩ := Prod.mk.inj (Except.ok.inj h)
    exact bind (transition (by simp [hheld]) (by simpa using hc) _ _ _ (by simp [ht])) fun _ _ _ => pure _

theorem prepare {v : View} {c : Charge}
    (hfresh : e.store.payment? (Ident.ofSerial (e.store.serial + 1)) = none) (hkey : chargeKey c.id ∉ e.held)
    (hc : e.store.charge? c.id = some c) (hv : v.Shows e c) :
    Sim (Run.prepare c) (Plan.prepare v c (Ident.ofSerial (e.store.serial + 1))) e := by
  obtain ⟨r, hr, hiff⟩ := Run.fastChargeConflict_exec c e
  have hstops : r.isSome = v.stops c := Bool.eq_iff_iff.mpr (hiff.trans hv.stops_iff.symm)
  unfold Run.prepare Plan.prepare
  refine bind_read hr ?_
  rw [hstops]
  split
  · exact stopFast hkey hc hv.now.symm
  rename_i hs
  rw [hv.draft]
  refine bind (paymentFor hkey hc hv.now.symm) fun pid ws h => ?_
  rcases Plan.paymentFor_run h with ⟨hpay, rfl⟩ | ⟨hpay, rfl, d, hd, rfl⟩
  · -- linked already: nothing was written
    have ho : v.opens c = false := by simp [View.opens, hpay]
    rw [show v.staged c (Ident.ofSerial (e.store.serial + 1)) = c by simp [View.staged, ho],
      show v.payment c (Ident.ofSerial (e.store.serial + 1)) = e.store.payment? pid by
        simp [View.payment, ho, hv.linked, hpay], hv.gateway]
    exact completeOrCall hkey hc hv.now.symm
  · -- a payment was opened under the next serial and linked
    have ho : v.opens c = true := by simp [View.opens, hs, hpay, hv.draft, hd]
    have hc₁ : (e.write (.create (Payment.ofDraft (Ident.ofSerial (e.store.serial + 1)) d v.now))).store.charge?
        { c with payment := some (Ident.ofSerial (e.store.serial + 1)) }.id = some c := by simpa using hc
    have hc₂ := Engine.charge?_write_save hc₁ c.id
    rw [if_pos rfl] at hc₂
    have hp₂ : (e.writeAll [.create (Payment.ofDraft (Ident.ofSerial (e.store.serial + 1)) d v.now),
        .save { c with payment := some (Ident.ofSerial (e.store.serial + 1)) }]).store.payment?
        (Ident.ofSerial (e.store.serial + 1)) =
          some (Payment.ofDraft (Ident.ofSerial (e.store.serial + 1)) d v.now) := by
      simp only [Store.payment?] at hfresh
      simp [Engine.write, Store.payment?, List.find?_append, hfresh, Payment.ofDraft]
    rw [show v.staged c (Ident.ofSerial (e.store.serial + 1)) =
        c.savedOver { c with payment := some (Ident.ofSerial (e.store.serial + 1)) } v.now by
          simp [View.staged, ho],
      show v.payment c (Ident.ofSerial (e.store.serial + 1)) =
        some (Payment.ofDraft (Ident.ofSerial (e.store.serial + 1)) d v.now) by
          simp [View.payment, ho, hv.draft, hd],
      ← hp₂, hv.gateway]
    exact completeOrCall (by simpa using hkey) (by simpa [hv.now] using hc₂) (by simp [hv.now])

/-- Processing an attempt, with no key held, follows the plan of its view, with the next serial for
the payment it may open. -/
theorem process (hheld : e.held = [])
    (hfresh : e.store.payment? (Ident.ofSerial (e.store.serial + 1)) = none) (due : Charge) :
    Sim (Run.process due) (Plan.process (View.of e.observed due.id) (Ident.ofSerial (e.store.serial + 1)))
      e := by
  unfold Run.process Plan.process
  refine bind (claim (by simp [hheld]) rfl rfl) fun claimed ws₁ h₁ => ?_
  rcases claimed with _ | c
  · exact bind (count _) fun _ _ _ => pure _
  obtain ⟨cur, hcur, rfl, rfl⟩ := Plan.claim_run_some h₁
  -- after the claim: the claimed attempt is stored as is, and the view shows the engine
  have hc₁ : (e.writeAll [.save { cur with status := some inFlight }]).store.charge?
      (cur.savedOver { cur with status := some inFlight } e.now).id =
        some (cur.savedOver { cur with status := some inFlight } e.now) := by
    have hcur' : e.store.charge? { cur with status := some inFlight }.id = some cur := by
      rw [← Store.id_of_charge? _ hcur] at hcur
      exact hcur
    have hsave := Engine.charge?_write_save hcur' cur.id
    rw [if_pos rfl] at hsave
    exact hsave
  have hfresh₁ : (e.writeAll [.save { cur with status := some inFlight }]).store.payment?
      (Ident.ofSerial ((e.writeAll [.save { cur with status := some inFlight }]).store.serial + 1)) = none :=
    hfresh
  have hv : (View.of e.observed due.id).Shows (e.writeAll [.save { cur with status := some inFlight }])
      (cur.savedOver { cur with status := some inFlight } e.now) := View.shows_claimed hcur
  refine bind (recover (prepare hfresh₁ (by simp [hheld]) hc₁ hv)
    fun err ws₂ h₂ => ?_) fun prepared ws₂ h₂ => ?_
  · -- the preparation failed: the claim is given back over the staged attempt
    obtain rfl := Plan.prepare_run_error h₂
    have hc₂ := Engine.charge?_openWrites (v := View.of e.observed due.id)
      (k := Ident.ofSerial (e.store.serial + 1)) hc₁ (by simp [hv.now])
    exact bind (recover (release (by simp [hheld]) hc₂ (by simp [hv.now])) fun _ _ _ => pure _)
      fun _ _ _ => throw err
  have h₂' := Plan.run_of_recover (fun err a ws => Plan.run_bind_fail _ err a) h₂
  cases prepared with
  | done o => exact bind (count _) fun _ _ _ => pure _
  | call p g =>
    obtain ⟨hpay, -, rfl⟩ := Plan.prepare_run_call h₂'
    have hc₂ := Engine.charge?_openWrites (v := View.of e.observed due.id)
      (k := Ident.ofSerial (e.store.serial + 1)) hc₁ (by simp [hv.now])
    have hp₂ := Engine.payment?_openWrites hv hfresh₁ hpay
    refine bind (call g p _) fun answer ws₃ h₃ => ?_
    obtain ⟨-, rfl⟩ := Prod.mk.inj (Except.ok.inj h₃)
    -- the call writes outside the store: the attempt and the payment read as the preparation left them
    have hc₃ := hc₂
    have hp₃ := hp₂
    rw [← Engine.store_write_charge _ g p] at hc₃ hp₃
    refine bind (reply (by simp [hheld]) hc₃ hp₃ (by simp [hv.policy]) (by simp [hv.now]) g answer)
      fun ⟨o, r⟩ _ _ => ?_
    exact bind (appendLog _ _ _ (by simp [hv.now])) fun _ _ _ => bind (count _) fun _ _ _ => pure _

end Sim


end Rebill
