import Rebill.Proofs.Plan
import Rebill.Proofs.Callbacks

/-!
# Resolving a pending charge

A callback for a pending attempt checks, holding no lock, that the attempt is pending, linked to
a stored payment and that the payment's gateway is registered (`Run.Pending`). A check that fails
changes nothing. One that passes asks the ledger to settle or to fail the payment
(`Run.callbackRequest`), moves the attempt to `charged` or to `charge_failed`, re-arms a failed
attempt, and writes one audit line. Its plan is `Plan.resolve`: the ledger's step, then
`Plan.conclude`. The ledger decides as it always does (`Ledger.decided`): a request for the
status the payment has, or to fail a paid payment, is declined.

The sections take their locks one after another, so another party can hold the attempt's lock
between two of them. When it holds the lock at the move, the callback fails after the ledger's
step; repeated once the lock is free, it ends as one callback would have, up to the counters: the
repeated ledger step is declined, since the payment already has the requested status
(`Plan.ledger_decided_run`). When it takes the lock just before the re-arm of a failed attempt,
the attempt has already left `pending`, so the repeat is refused and the re-arm and the audit line
are never made.
-/

namespace Rebill

open Svc Attempts Engine

namespace Ledger

/-- Whether the ledger declines the request `u` on the payment `p`: it already has the status, or
it is paid and asked to fail. -/
def declines (p : Payment) (u : StatusRequest) : Bool :=
  p.status == u.status || (p.status.isPaidLike && u.status == .fail)

/-- The payment as the ledger leaves it after the request `u` at `t`. -/
def decided (p : Payment) (u : StatusRequest) (t : Instant) : Payment :=
  if declines p u then p else p.write (u.writeOn p t) t

@[simp] theorem decided_id (p : Payment) (u : StatusRequest) (t : Instant) :
    (decided p u t).id = p.id := by
  unfold decided
  split <;> rfl

@[simp] theorem decided_gateway (p : Payment) (u : StatusRequest) (t : Instant) :
    (decided p u t).gateway = p.gateway := by
  unfold decided
  split <;> rfl

theorem declines_decided (p : Payment) (u : StatusRequest) (t : Instant) :
    declines (decided p u t) u = true := by
  unfold decided
  split
  · assumption
  · simp [declines, Payment.write, StatusRequest.writeOn]

end Ledger

namespace Run

/-- What a callback asks of the ledger: the gateway's paid status with the instant it reports, or
`fail` with the code and the message; the user is told either way. -/
def callbackRequest (g : Gateway) (s : Bool) (r : GatewayResponse) : Ledger.StatusRequest :=
  if s then { status := g.paidStatus, notify := true, paidAt := g.chargedAt r }
  else { status := .fail, notify := true, errorMessage := some (r.code ++ ": " ++ r.message) }

theorem settle_or_fail_eq (p : Payment) (g : Gateway) (s : Bool) (r : GatewayResponse) :
    (if s then settle p g r else fail p r true) = Ledger.updateStatus p.id (callbackRequest g s r) := by
  cases s <;> rfl

end Run

/-- The attempt `c` re-armed for a retry due at `due`: one retry spent, active again, without
status, and the retry noted. -/
def Charge.rearmed (c : Charge) (due : Instant) : Charge :=
  ({ c with retries := c.retries - 1, state := .active, chargeAt := due, status := none } : Charge).pushNote
    ("Retry scheduled, " ++ toString (c.retries - 1) ++ " left")

/-- The pending attempt `c` as a callback with outcome `s` and answer `r` leaves it, a retry being
due at `due`: charged with the answer's code; or failed with it and re-armed, which with no retry
left only notes that the retries are exhausted. -/
def Charge.resolved (c : Charge) (s : Bool) (r : GatewayResponse) (due : Instant) : Charge :=
  if s then c.moveTo .charged { status := some r.code }
  else if c.retries ≤ 0 then
    (c.moveTo .chargeFailed { status := some r.code }).pushNote "Retries exhausted"
  else c.rearmed due

theorem Charge.resolved_ne_pending (c : Charge) (s : Bool) (r : GatewayResponse) (due : Instant) :
    (c.resolved s r due).state ≠ .pending := by
  unfold Charge.resolved
  cases s
  · by_cases hr : c.retries ≤ 0 <;> simp [hr, Charge.moveTo, Charge.pushNote, Charge.rearmed]
  · simp [Charge.moveTo]

namespace Run

/-! ## The check -/

/-- The check of a callback passes on the attempt `id`: it is stored as `c`, pending, linked to the
payment `pid` stored as `p`, and `p`'s gateway is registered as `g`. -/
structure Pending (e : Engine) (id : Ident) (c : Charge) (pid : Ident) (p : Payment) (g : Gateway) :
    Prop where
  charge : e.store.charge? id = some c
  pending : c.state = .pending
  linked : c.payment = some pid
  payment : e.store.payment? pid = some p
  gateway : e.gateways.get? p.gateway = some g

variable {e : Engine} {id pid : Ident} {c : Charge} {p : Payment} {g : Gateway} {s : Bool}
  {r : GatewayResponse}

theorem pendingCheck_of_pending (hp : Pending e id c pid p g) (s : Bool) :
    (pendingCheck id s).exec e = .ok (.ok (pid, p, g), e) := by
  have hcheck : (c.state != .pending) = false := by simp [hp.pending]
  unfold pendingCheck
  rw [exec_bind, Attempts.exec_get, hp.charge]
  simp only [hcheck, Bool.false_eq_true, if_false, hp.linked]
  rw [exec_bind, exec_store]
  simp only [hp.payment]
  rw [exec_bind, exec_requireGateway, hp.gateway]
  rfl

theorem pendingCheck_not_pending (hc : e.store.charge? id = some c) (hs : c.state ≠ .pending)
    (s : Bool) :
    (pendingCheck id s).exec e =
      .ok (.error (.illegalTransition c.state (if s then .charged else .chargeFailed)), e) := by
  have hcheck : (c.state != .pending) = true := by simp [hs]
  unfold pendingCheck
  rw [exec_bind, Attempts.exec_get, hc]
  simp only [hcheck, if_true]
  rfl

theorem refuses_of_not_pending' (h : ∀ c pid p g, ¬ Pending e id c pid p g) :
    Callback.Refuses id s e := by
  rcases Callback.pendingCheck_cases id s e with href | ⟨c, pid, p, g, hc, hpend, hpay, hp, hg, -⟩
  · exact href
  · exact absurd ⟨hc, hpend, hpay, hp, hg⟩ (h c pid p g)

theorem resolvePending_refused (h : Callback.Refuses id s e) :
    ∃ err, (resolvePending id s r).exec e = .ok (.error err, e) := by
  obtain ⟨err, hchk⟩ := h
  refine ⟨err, ?_⟩
  rw [resolvePending_eq, exec_bind, hchk]

end Run

/-! ## The ledger's step, planned -/

namespace Plan

variable {p : Payment} {u : Ledger.StatusRequest} {t : Instant} {b : Bool} {ws : List Write}

theorem ledger_run_cases (p : Payment) (u : Ledger.StatusRequest) (t : Instant) :
    (Ledger.declines p u = true ∧ ∃ k, (ledger p u t).run = .ok (.ok false, [.tally k])) ∨
      (Ledger.declines p u = false ∧ (ledger p u t).run = .ok (.ok true,
        [.status p.id (u.writeOn p t), .tally (.statusTransition "applied" u.status),
          .announce (.paymentStatusChanged p.id p.status u.status u.notify) "update_status",
          .post ⟨p.id, u.notify⟩ "update_status"])) := by
  unfold ledger applyLocked
  by_cases h₁ : (p.status == u.status) = true
  · refine .inl ⟨by simp [Ledger.declines, h₁], .statusTransition "noop" u.status, ?_⟩
    simp [h₁, run_bind, Except.map]
  by_cases h₂ : (p.status.isPaidLike && u.status == .fail) = true
  · refine .inl ⟨by simp [Ledger.declines, h₂], .statusTransition "rejected" u.status, ?_⟩
    simp [h₁, h₂, run_bind, Except.map]
  · refine .inr ⟨by simp [Ledger.declines, h₁, h₂], ?_⟩
    simp [h₁, h₂, run_bind, Except.map]

theorem ledger_run_ok (p : Payment) (u : Ledger.StatusRequest) (t : Instant) :
    ∃ b ws, (ledger p u t).run = .ok (.ok b, ws) := by
  rcases ledger_run_cases p u t with ⟨-, k, h⟩ | ⟨-, h⟩
  · exact ⟨_, _, h⟩
  · exact ⟨_, _, h⟩

theorem ledger_decided_run (p : Payment) (u : Ledger.StatusRequest) (t : Instant) :
    ∃ k, (ledger (Ledger.decided p u t) u t).run = .ok (.ok false, [.tally k]) := by
  rcases ledger_run_cases (Ledger.decided p u t) u t with ⟨-, h⟩ | ⟨hd, -⟩
  · exact h
  · rw [Ledger.declines_decided] at hd
    cases hd

end Plan

namespace Engine

variable {e : Engine} {p : Payment} {u : Ledger.StatusRequest} {b : Bool} {ws : List Write}

theorem ledger_writes (hp : e.store.payment? p.id = some p)
    (h : (Plan.ledger p u e.now).run = .ok (.ok b, ws)) :
    (e.writeAll ws).store.payment? p.id = some (Ledger.decided p u e.now) ∧
      (e.writeAll ws).store.charge? = e.store.charge? ∧
      (∀ x, (e.writeAll ws).store.auditOf x = e.store.auditOf x) ∧
      (e.writeAll ws).gateways = e.gateways := by
  rcases Plan.ledger_run_cases p u e.now with ⟨hd, k, hr⟩ | ⟨hd, hr⟩ <;> rw [hr] at h <;>
    obtain ⟨-, rfl⟩ := Prod.mk.inj (Except.ok.inj h)
  · simp [write, Ledger.decided, hd, hp]
  · refine ⟨?_, ?_, fun x => ?_, ?_⟩
    · simp only [writeAll_cons, writeAll_nil, store_write_post, store_write_announce,
        store_write_tally]
      rw [payment?_write_status hp]
      simp [Ledger.decided, hd]
    · simp
    · simp [Write.onAudit]
    · simp [write]

end Engine

/-! ## The plan of a callback -/

namespace Plan

/-- The sections of a callback after the ledger's step, on the attempt stored as `cur` and the
payment `pid`: the move, the re-arm of a failed attempt, the audit line and the count. -/
def conclude (delay : Span) (now : Instant) (cur : Charge) (pid : Ident) (s : Bool)
    (r : GatewayResponse) : Plan Charge :=
  transition cur (if s then .charged else .chargeFailed) .system { status := some r.code } now >>=
    fun moved => (if s then pure moved else rearm moved delay now) >>= fun resolved =>
    write (.audit (Run.logEntry pid cur.id r now)) >>= fun _ =>
    write (.tally (.outcome (if s then "charged" else "failed"))) >>= fun _ => pure resolved

/-- A callback after its check, on the attempt stored as `cur` and the payment `p` of the gateway
`g`: the ledger's step, then the rest. -/
def resolve (delay : Span) (now : Instant) (cur : Charge) (p : Payment) (g : Gateway) (s : Bool)
    (r : GatewayResponse) : Plan Charge := do
  let _ ← ledger p (Run.callbackRequest g s r) now
  conclude delay now cur p.id s r

variable {α β : Type}

theorem run_bind_ok {p : Plan α} {f : α → Plan β} {a : α} {ws : List Write}
    (h : p.run = .ok (.ok a, ws)) (e : Engine) :
    (p >>= f).run.map (fun rw => (rw.1, e.writeAll rw.2)) =
      (f a).run.map (fun rw => (rw.1, (e.writeAll ws).writeAll rw.2)) := by
  simp only [run_bind, h]
  rcases (f a).run with o | ⟨x, ws'⟩
  · rfl
  · simp [Except.map, Engine.writeAll_append]

end Plan

namespace Sim

open Run

variable {e : Engine} {id pid : Ident} {c cur : Charge} {p : Payment} {g : Gateway}

theorem conclude (hc : e.store.charge? cur.id = some cur) (hkey : chargeKey cur.id ∉ e.held)
    (pid : Ident) (s : Bool) (r : GatewayResponse) :
    Sim (Attempts.transition cur.id (if s then .charged else .chargeFailed) .system
          { status := some r.code } >>= fun c =>
        (if s then Pure.pure c else Attempts.rearmFailed cur.id) >>= fun c =>
        Run.appendLog pid cur.id r >>= fun _ =>
        Svc.count (.outcome (if s then "charged" else "failed")) >>= fun _ => Pure.pure c)
      (Plan.conclude e.policy.retryDelay e.now cur pid s r) e := by
  unfold Plan.conclude
  refine bind (transition hkey hc _ _ _ rfl) fun moved ws h => ?_
  have hc₁ : (e.writeAll ws).store.charge? cur.id = some moved :=
    Engine.charge?_transition hc rfl h
  refine bind (p := if s then Pure.pure moved else Plan.rearm moved e.policy.retryDelay e.now) ?_
    fun _ _ _ => ?_
  · cases s
    · exact rearm (by simpa using hkey) hc₁ (by simp) (by simp)
    · exact pure moved
  · exact bind (appendLog _ _ _ (by simp)) fun _ _ _ => bind (count _) fun _ _ _ => pure _

theorem resolvePending (hp : Pending e id c pid p g) (hpk : Ledger.paymentKey pid ∉ e.held)
    (hck : chargeKey id ∉ e.held) (s : Bool) (r : GatewayResponse) :
    Sim (Run.resolvePending id s r) (Plan.resolve e.policy.retryDelay e.now c p g s r) e := by
  obtain rfl : p.id = pid := Store.id_of_payment? e.store hp.payment
  obtain rfl : c.id = id := Store.id_of_charge? e.store hp.charge
  rw [resolvePending_eq]
  refine bind_read (pendingCheck_of_pending hp s) ?_
  dsimp only
  rw [settle_or_fail_eq]
  unfold Plan.resolve
  refine bind (ledger hpk hp.payment _ rfl) fun _ ws h => ?_
  have hc : (e.writeAll ws).store.charge? c.id = some c := by
    rw [Engine.charge?_writeAll_of_not_save _ (Plan.ledger_run h)]
    exact hp.charge
  have hrest := conclude hc (by simpa using hck) p.id s r
  rwa [writeAll_policy, writeAll_now] at hrest

end Sim

/-! ## A callback run whole -/

namespace Plan

variable {cur v : Charge} {delay : Span} {now : Instant}

theorem transition_pending_run (hpend : cur.state = .pending) (s : Bool) (r : GatewayResponse)
    (now : Instant) :
    ∃ ws, (transition cur (if s then .charged else .chargeFailed) .system { status := some r.code }
      now).run = .ok (.ok (cur.savedOver
        (cur.moveTo (if s then .charged else .chargeFailed) { status := some r.code }) now), ws) := by
  have hallow : cur.state.allows (if s then .charged else .chargeFailed) .system = true := by
    rw [hpend]
    cases s <;> rfl
  unfold transition moveChange
  rw [if_pos hallow, run_update_ok]
  exact ⟨_, rfl⟩

theorem rearmChange_id {c c' : Charge} (h : rearmChange c delay now = .ok (.ok c')) : c'.id = c.id := by
  unfold rearmChange at h
  split at h
  · cases h
  split at h
  · cases h
    rfl
  · rcases hd : shiftBy now delay with o | due <;> rw [hd] at h <;> cases h
    rfl

theorem rearmChange_spent {c : Charge} (hst : c.state = .chargeFailed) (hr : c.retries ≤ 0) :
    rearmChange c delay now = .ok (.ok (c.pushNote "Retries exhausted")) := by
  have hcheck : (c.state != .chargeFailed) = false := by simp [hst]
  unfold rearmChange
  rw [if_neg (by simp [hcheck]), if_pos hr]

theorem rearmChange_retry {c : Charge} {due : Instant} (hst : c.state = .chargeFailed)
    (hr : ¬c.retries ≤ 0) (hdue : shiftBy now delay = .ok due) :
    rearmChange c delay now = .ok (.ok (Charge.pushNote
      { c with retries := c.retries - 1, state := .active, chargeAt := due, status := none }
      ("Retry scheduled, " ++ toString (c.retries - 1) ++ " left"))) := by
  have hcheck : (c.state != .chargeFailed) = false := by simp [hst]
  unfold rearmChange
  rw [if_neg (by simp [hcheck]), if_neg hr, hdue]
  rfl

theorem rearm_run_spent (hst : cur.state = .chargeFailed) (hr : cur.retries ≤ 0) :
    (rearm cur delay now).run = .ok (.ok (cur.savedOver (cur.pushNote "Retries exhausted") now),
      [.save (cur.pushNote "Retries exhausted")]) := by
  unfold rearm
  rw [rearmChange_spent hst hr, run_update_ok]
  simp [Charge.savedOver, Charge.pushNote]

theorem rearm_run_retry {due : Instant} (hst : cur.state = .chargeFailed) (hr : 0 < cur.retries)
    (hdue : shiftBy now delay = .ok due) :
    (rearm cur delay now).run = .ok (.ok (cur.savedOver (cur.rearmed due) now), [.save (cur.rearmed due),
      .announce (.chargeStateChanged cur.id .chargeFailed .active) "transition"]) := by
  unfold rearm
  rw [rearmChange_retry hst (by omega) hdue, run_update_ok]
  simp [Charge.rearmed, Charge.savedOver, Charge.pushNote, hst]

theorem rearm_failed_run (r : GatewayResponse)
    (hdue : 0 < cur.retries → ∃ due, shiftBy now delay = .ok due) :
    ∃ v ws, (rearm (cur.savedOver (cur.moveTo .chargeFailed { status := some r.code }) now) delay
        now).run = .ok (.ok v, ws) ∧
      ∃ due, (0 < cur.retries → shiftBy now delay = .ok due) ∧
        v = { cur.resolved false r due with updated := now } := by
  have hst : (cur.savedOver (cur.moveTo .chargeFailed { status := some r.code }) now).state =
      .chargeFailed := by
    simp [Charge.savedOver, Charge.moveTo]
  by_cases hr : cur.retries ≤ 0
  · refine ⟨_, _, rearm_run_spent hst (by simpa [Charge.savedOver, Charge.moveTo] using hr), now,
      fun h => absurd h (by omega), ?_⟩
    simp [Charge.resolved, hr, Charge.savedOver, Charge.moveTo, Charge.pushNote]
  · obtain ⟨due, hdue⟩ := hdue (by omega)
    refine ⟨_, _, rearm_run_retry hst (by simpa [Charge.savedOver, Charge.moveTo] using hr) hdue,
      due, fun _ => hdue, ?_⟩
    simp [Charge.resolved, hr, Charge.savedOver, Charge.moveTo, Charge.rearmed, Charge.pushNote]

end Plan

namespace Engine

theorem update_keeps {cur v : Charge} {ch : Except Overflow (Except BillingError Charge)}
    {now : Instant} {ws : List Write} (h : (Plan.update cur ch now).run = .ok (.ok v, ws))
    (e : Engine) :
    (e.writeAll ws).store.payment? = e.store.payment? ∧
      ∀ x, (e.writeAll ws).store.auditOf x = e.store.auditOf x := by
  obtain ⟨c, -, -, rfl⟩ := Plan.update_run h
  constructor
  · split <;> simp
  · intro x
    split <;> simp [Write.onAudit]

theorem conclude_effect {e : Engine} {cur : Charge} (hc : e.store.charge? cur.id = some cur)
    (hpend : cur.state = .pending) (pid : Ident) (s : Bool) (r : GatewayResponse)
    (hdue : s = false → 0 < cur.retries → ∃ due, shiftBy e.now e.policy.retryDelay = .ok due) :
    ∃ c' ws, (Plan.conclude e.policy.retryDelay e.now cur pid s r).run = .ok (.ok c', ws) ∧
      (e.writeAll ws).store.charge? cur.id = some c' ∧
      (∃ due, (s = false → 0 < cur.retries → shiftBy e.now e.policy.retryDelay = .ok due) ∧
        c' = { cur.resolved s r due with updated := e.now }) ∧
      (e.writeAll ws).store.payment? = e.store.payment? ∧
      (e.writeAll ws).store.auditOf pid = e.store.auditOf pid ++ [Run.logEntry pid cur.id r e.now] := by
  obtain ⟨ws₁, h₁⟩ := Plan.transition_pending_run hpend s r e.now
  have hc₁ := charge?_transition hc rfl h₁
  obtain ⟨hpay₁, haud₁⟩ := update_keeps h₁ e
  cases s with
  | true =>
    simp only [if_true] at h₁ hc₁
    refine ⟨cur.savedOver (cur.moveTo .charged { status := some r.code }) e.now,
      ws₁ ++ [.audit (Run.logEntry pid cur.id r e.now), .tally (.outcome "charged")], ?_, ?_,
      ⟨e.now, fun h => absurd h Bool.noConfusion, ?_⟩, ?_, ?_⟩
    · simp [Plan.conclude, Plan.run_bind, h₁, Except.map]
    · simpa [writeAll_append] using hc₁
    · simp [Charge.resolved, Charge.savedOver, Charge.moveTo]
    · simp [writeAll_append, hpay₁]
    · simp [writeAll_append, haud₁, Write.onAudit, Run.logEntry, -store_write_audit]
  | false =>
    simp only [Bool.false_eq_true, if_false] at h₁ hc₁
    -- the moved attempt is failed: re-arming it goes through
    obtain ⟨v, ws₂, h₂, hv⟩ := Plan.rearm_failed_run r (hdue rfl)
    have hc₂ := charge?_update (e := e.writeAll ws₁) hc₁ (fun _ hr => Plan.rearmChange_id hr)
      (by rw [writeAll_now]; exact h₂)
    obtain ⟨hpay₂, haud₂⟩ := update_keeps h₂ (e.writeAll ws₁)
    refine ⟨v, ws₁ ++ ws₂ ++ [.audit (Run.logEntry pid cur.id r e.now), .tally (.outcome "failed")],
      ?_, ?_, ?_, ?_, ?_⟩
    · simp [Plan.conclude, Plan.run_bind, h₁, h₂, Except.map]
    · simp only [writeAll_append, writeAll_cons, writeAll_nil, store_write_tally, store_write_audit,
        charge?_appendAudit]
      exact hc₂
    · obtain ⟨due, hdue', rfl⟩ := hv
      exact ⟨due, fun _ => hdue', rfl⟩
    · simp [writeAll_append, hpay₁, hpay₂]
    · simp [writeAll_append, haud₁, haud₂, Write.onAudit, Run.logEntry, -store_write_audit]

end Engine

namespace Run

variable {e : Engine} {id pid : Ident} {c : Charge} {p : Payment} {g : Gateway} {s : Bool}
  {r : GatewayResponse}

theorem resolvePending_not_pending (hc : e.store.charge? id = some c) (hs : c.state ≠ .pending) :
    (resolvePending id s r).exec e =
      .ok (.error (.illegalTransition c.state (if s then .charged else .chargeFailed)), e) := by
  rw [resolvePending_eq, exec_bind, pendingCheck_not_pending hc hs]

theorem resolvePending_whole (hp : Pending e id c pid p g) (hheld : e.held = [])
    (hdue : s = false → 0 < c.retries → ∃ due, shiftBy e.now e.policy.retryDelay = .ok due) :
    ∃ c' e', (resolvePending id s r).exec e = .ok (.ok c', e') ∧
      e'.store.payment? pid = some (Ledger.decided p (callbackRequest g s r) e.now) ∧
      e'.store.charge? id = some c' ∧
      (∃ due, (s = false → 0 < c.retries → shiftBy e.now e.policy.retryDelay = .ok due) ∧
        c' = { c.resolved s r due with updated := e.now }) ∧
      e'.store.auditOf pid = e.store.auditOf pid ++ [logEntry pid id r e.now] ∧
      (resolvePending id s r).exec e' =
        .ok (.error (.illegalTransition c'.state (if s then .charged else .chargeFailed)), e') := by
  obtain rfl : p.id = pid := Store.id_of_payment? e.store hp.payment
  obtain rfl : c.id = id := Store.id_of_charge? e.store hp.charge
  have hsim := Sim.resolvePending hp (by simp [hheld]) (by simp [hheld]) s r
  -- the ledger's step, then the rest from where it leaves the engine
  obtain ⟨b, ws₁, h₁⟩ := Plan.ledger_run_ok p (callbackRequest g s r) e.now
  obtain ⟨hpay₁, hc₁, haud₁, -⟩ := Engine.ledger_writes hp.payment h₁
  obtain ⟨c', ws₂, h₂, hc₂, hres, hpay₂, haud₂⟩ :=
    Engine.conclude_effect (e := e.writeAll ws₁) (by rw [hc₁]; exact hp.charge) hp.pending p.id s r
      (by simpa using hdue)
  simp only [writeAll_policy, writeAll_now] at h₂ haud₂ hres
  refine ⟨c', (e.writeAll ws₁).writeAll ws₂, ?_, ?_, hc₂, hres, ?_, ?_⟩
  · unfold Sim Plan.resolve at hsim
    rw [hsim, Plan.run_bind_ok h₁ e, h₂]
    rfl
  · rw [hpay₂]
    exact hpay₁
  · rw [haud₂, haud₁]
  · obtain ⟨due, -, rfl⟩ := hres
    exact resolvePending_not_pending hc₂ (Charge.resolved_ne_pending c s r due)

end Run

/-! ## Counters aside -/

namespace Engine

def uncounted (e : Engine) : Engine := { e with journal := { e.journal with counters := [] } }

theorem uncounted_write (e : Engine) (w : Write) :
    (e.write w).uncounted = (e.uncounted.write w).uncounted := by
  cases w with
  | announce ev op =>
    simp only [write, announce, show e.uncounted.outlets = e.outlets from rfl]
    cases e.outlets.sink <;> (try cases e.outlets.eventsFail) <;> rfl
  | post m op =>
    simp only [write, post, show e.uncounted.outlets = e.outlets from rfl]
    cases e.outlets.sink <;> (try cases e.outlets.queueFails) <;> rfl
  | _ => rfl

theorem uncounted_writeAll (e : Engine) (ws : List Write) :
    (e.writeAll ws).uncounted = (e.uncounted.writeAll ws).uncounted := by
  induction ws generalizing e with
  | nil => rfl
  | cons w ws ih =>
    rw [writeAll_cons, writeAll_cons, ih, ih (e.uncounted.write w), uncounted_write]

end Engine

namespace Svc

/-- Two ends of runs that are alike: the same overflow, or the same answer in engines that differ
at most in their counters. -/
def Alike {α : Type} (x y : Except Overflow (Except BillingError α × Engine)) : Prop :=
  x.map (fun ae => (ae.1, ae.2.uncounted)) = y.map (fun ae => (ae.1, ae.2.uncounted))

theorem alike_of_uncounted {α : Type} (q : Plan α) {e e' : Engine}
    (h : e.uncounted = e'.uncounted) :
    Alike (q.run.map fun rw => (rw.1, e.writeAll rw.2)) (q.run.map fun rw => (rw.1, e'.writeAll rw.2)) := by
  unfold Alike
  rcases q.run with o | ⟨x, ws⟩
  · rfl
  · simp only [Except.map, Except.ok.injEq, Prod.mk.injEq, true_and]
    rw [Engine.uncounted_writeAll, h, ← Engine.uncounted_writeAll]

end Svc

/-! ## Another party holding the attempt's lock -/

theorem Ledger.paymentKey_ne_chargeKey (x y : Ident) : Ledger.paymentKey x ≠ chargeKey y := by
  intro h
  have hhead := congrArg (fun t => t.toList.head?) h
  simp [Ledger.paymentKey, chargeKey] at hhead

theorem Attempts.exec_update_held {id : Ident} {change : Charge → Svc Charge} {e : Engine}
    (h : chargeKey id ∈ e.held) :
    (update id change).exec e = .ok (.error (.lockTimeout (chargeKey id) e.policy.lockTimeoutMs), e) := by
  unfold update
  rw [exec_bind, exec_withLock, if_pos h]

namespace Run

variable {e : Engine} {id pid : Ident} {c : Charge} {p : Payment} {g : Gateway} {s : Bool}
  {r : GatewayResponse}

theorem resolvePending_held_at_move (hp : Pending e id c pid p g) (hheld : e.held = []) :
    ∃ e₁, (resolvePending id s r).exec { e with held := [chargeKey id] } =
        .ok (.error (.lockTimeout (chargeKey id) e.policy.lockTimeoutMs), e₁) ∧
      Alike ((resolvePending id s r).exec { e₁ with held := [] }) ((resolvePending id s r).exec e) := by
  obtain rfl : p.id = pid := Store.id_of_payment? e.store hp.payment
  obtain rfl : c.id = id := Store.id_of_charge? e.store hp.charge
  obtain ⟨b, ws₁, h₁⟩ := Plan.ledger_run_ok p (callbackRequest g s r) e.now
  have hpH : Pending { e with held := [chargeKey c.id] } c.id c p.id p g :=
    ⟨hp.charge, hp.pending, hp.linked, hp.payment, hp.gateway⟩
  refine ⟨({ e with held := [chargeKey c.id] } : Engine).writeAll ws₁, ?_, ?_⟩
  · -- the interrupted callback: the ledger's step goes through, the move finds the lock held
    have hled := Sim.ledger (e := { e with held := [chargeKey c.id] })
      (by simp [Ledger.paymentKey_ne_chargeKey]) hp.payment (callbackRequest g s r) rfl
    unfold Sim at hled
    rw [resolvePending_eq, exec_bind, pendingCheck_of_pending hpH]
    dsimp only
    rw [settle_or_fail_eq, exec_bind, hled, h₁]
    dsimp only [Except.map]
    rw [exec_bind, transition, Attempts.exec_update_held (by simp)]
    simp
  · -- released, the engine is where the ledger's step leaves the callback run whole
    have hrel : ({ ({ e with held := [chargeKey c.id] } : Engine).writeAll ws₁ with held := [] } :
        Engine) = e.writeAll ws₁ := by
      have hh : (e.writeAll ws₁).held = [] := by simp [hheld]
      rw [writeAll_withHeld, ← hh]
    rw [hrel]
    obtain ⟨hpay₁, hc₁, -, hgw₁⟩ := Engine.ledger_writes hp.payment h₁
    have hp₁ : Pending (e.writeAll ws₁) c.id c p.id (Ledger.decided p (callbackRequest g s r) e.now) g :=
      ⟨by rw [hc₁]; exact hp.charge, hp.pending, hp.linked, hpay₁,
        by rw [hgw₁, Ledger.decided_gateway]; exact hp.gateway⟩
    have hsim := Sim.resolvePending hp (by simp [hheld]) (by simp [hheld]) s r
    have hsim₁ := Sim.resolvePending hp₁ (by simp [hheld]) (by simp [hheld]) s r
    unfold Sim Plan.resolve at hsim hsim₁
    simp only [writeAll_policy, writeAll_now, Ledger.decided_id] at hsim₁
    obtain ⟨k, h₂⟩ := Plan.ledger_decided_run p (callbackRequest g s r) e.now
    rw [hsim, hsim₁, Plan.run_bind_ok h₂, Plan.run_bind_ok h₁]
    exact alike_of_uncounted _ rfl

theorem failed_callback_held_at_rearm (hp : Pending e id c pid p g) (hheld : e.held = []) :
    ∃ moved e₃, (Callback.steps id false r 3 .check).exec e = .ok (.ok (.rearm pid moved), e₃) ∧
      e₃.store.auditOf pid = e.store.auditOf pid ∧
      (Callback.step id false r (.rearm pid moved)).exec { e₃ with held := [chargeKey id] } =
        .ok (.ok (.done (.error (.lockTimeout (chargeKey id) e.policy.lockTimeoutMs))),
          { e₃ with held := [chargeKey id] }) ∧
      (resolvePending id false r).exec e₃ =
        .ok (.error (.illegalTransition .chargeFailed .chargeFailed), e₃) := by
  obtain rfl : p.id = pid := Store.id_of_payment? e.store hp.payment
  obtain rfl : c.id = id := Store.id_of_charge? e.store hp.charge
  obtain ⟨b, ws₁, h₁⟩ := Plan.ledger_run_ok p (callbackRequest g false r) e.now
  obtain ⟨-, hc₁, haud₁, -⟩ := Engine.ledger_writes hp.payment h₁
  have hc₁' : (e.writeAll ws₁).store.charge? c.id = some c := by rw [hc₁]; exact hp.charge
  obtain ⟨ws₂, h₂⟩ := Plan.transition_pending_run hp.pending false r e.now
  simp only [Bool.false_eq_true, if_false] at h₂
  have hc₂ := Engine.charge?_transition hc₁' (by simp) h₂
  obtain ⟨-, haud₂⟩ := Engine.update_keeps h₂ (e.writeAll ws₁)
  have hmoved : (c.savedOver (c.moveTo .chargeFailed { status := some r.code }) e.now).state =
      .chargeFailed := by
    simp [Charge.savedOver, Charge.moveTo]
  refine ⟨c.savedOver (c.moveTo .chargeFailed { status := some r.code }) e.now,
    (e.writeAll ws₁).writeAll ws₂, ?_, by rw [haud₂, haud₁], ?_, ?_⟩
  · -- the check, the ledger's step and the move, section by section
    have hs₁ : (Callback.step c.id false r .check).exec e = .ok (.ok (.ledger p.id p g), e) := by
      simp only [Callback.step]
      rw [Callback.exec_ending_map, pendingCheck_of_pending hp]
    have hled := Sim.ledger (by simp [hheld]) hp.payment (callbackRequest g false r) rfl
    unfold Sim at hled
    have hs₂ : (Callback.step c.id false r (.ledger p.id p g)).exec e =
        .ok (.ok (.move p.id), e.writeAll ws₁) := by
      simp only [Callback.step]
      rw [Callback.exec_ending_map, settle_or_fail_eq, hled, h₁]
      rfl
    have hmove := Sim.transition (by simp [hheld]) hc₁' .chargeFailed .system { status := some r.code }
      (by simp : (e.writeAll ws₁).now = e.now)
    unfold Sim at hmove
    have hs₃ : (Callback.step c.id false r (.move p.id)).exec (e.writeAll ws₁) =
        .ok (.ok (.rearm p.id (c.savedOver (c.moveTo .chargeFailed { status := some r.code }) e.now)),
          (e.writeAll ws₁).writeAll ws₂) := by
      simp only [Callback.step, Bool.false_eq_true, if_false]
      rw [Callback.exec_ending_map, hmove, h₂]
      rfl
    rw [Callback.exec_steps_succ, hs₁]
    dsimp only
    rw [Callback.exec_steps_succ, hs₂]
    dsimp only
    rw [Callback.exec_steps_succ, hs₃]
    rfl
  · -- the re-arm finds the lock held
    simp only [Callback.step, Bool.false_eq_true, if_false]
    rw [Callback.exec_ending_map, rearmFailed, exec_bind, exec_policy]
    dsimp only
    rw [Attempts.exec_update_held (by simp)]
    simp
  · -- the repeat: the attempt is no longer pending
    have h := resolvePending_not_pending (s := false) (r := r) hc₂ (by rw [hmoved]; decide)
    rw [hmoved] at h
    exact h

end Run

/-! ## Callbacks on a pending charge -/

namespace Run

/-- What a callback does to a pending charge. Whatever the engine, a callback whose check does not
pass fails and changes nothing. With no lock held, one whose check passes goes through when run
whole, once the retry's instant is in range where a failure leaves a retry: the payment is as the
ledger decides on the callback's request, which settles it with the gateway's paid status and
reported instant or fails it with the code and the message, telling the user; the attempt is
charged with the answer's code, or failed and re-armed (`Charge.resolved`: one retry spent,
active again, due at the retry's instant, status cleared, the retries left noted); one audit line
is added; a repeat is refused as an illegal move and changes nothing. When
another party holds the attempt's lock through the callback, it fails after the ledger's step, and
repeated once the lock is free it ends alike with the callback run whole. When another party takes
the lock just before a failed callback re-arms the attempt, the repeat is refused: the re-arm and
the audit line are lost. -/
theorem callbacks_on_pending_charges (e : Engine) (id : Ident) (s : Bool) (r : GatewayResponse) :
    ((∀ c pid p g, ¬Pending e id c pid p g) →
      ∃ err, (resolvePending id s r).exec e = .ok (.error err, e)) ∧
    ∀ c pid p g, Pending e id c pid p g → e.held = [] →
      ((s = false → 0 < c.retries → ∃ due, shiftBy e.now e.policy.retryDelay = .ok due) →
        ∃ c' e', (resolvePending id s r).exec e = .ok (.ok c', e') ∧
          e'.store.payment? pid = some (Ledger.decided p (callbackRequest g s r) e.now) ∧
          e'.store.charge? id = some c' ∧
          (∃ due, (s = false → 0 < c.retries → shiftBy e.now e.policy.retryDelay = .ok due) ∧
            c' = { c.resolved s r due with updated := e.now }) ∧
          e'.store.auditOf pid = e.store.auditOf pid ++ [logEntry pid id r e.now] ∧
          (resolvePending id s r).exec e' =
            .ok (.error (.illegalTransition c'.state (if s then .charged else .chargeFailed)), e')) ∧
      (∃ e₁, (resolvePending id s r).exec { e with held := [chargeKey id] } =
          .ok (.error (.lockTimeout (chargeKey id) e.policy.lockTimeoutMs), e₁) ∧
        Alike ((resolvePending id s r).exec { e₁ with held := [] }) ((resolvePending id s r).exec e)) ∧
      (s = false → ∃ moved e₃,
        (Callback.steps id false r 3 .check).exec e = .ok (.ok (.rearm pid moved), e₃) ∧
        e₃.store.auditOf pid = e.store.auditOf pid ∧
        (Callback.step id false r (.rearm pid moved)).exec { e₃ with held := [chargeKey id] } =
          .ok (.ok (.done (.error (.lockTimeout (chargeKey id) e.policy.lockTimeoutMs))),
            { e₃ with held := [chargeKey id] }) ∧
        (resolvePending id false r).exec e₃ =
          .ok (.error (.illegalTransition .chargeFailed .chargeFailed), e₃)) := by
  refine ⟨fun h => resolvePending_refused (refuses_of_not_pending' h), ?_⟩
  intro c pid p g hp hheld
  refine ⟨fun hdue => resolvePending_whole hp hheld hdue, resolvePending_held_at_move hp hheld, ?_⟩
  rintro rfl
  exact failed_callback_held_at_rearm hp hheld

/-- A failed callback for a pending attempt linked to a `form` payment, at the epoch with no lock
held: run whole, it fails the payment, re-arms the attempt and writes the audit line. -/
theorem callbacks_on_pending_charges_at_the_epoch :
    let p₀ : Payment :=
      { id := Ident.ofSerial 1, user := ⟨0⟩, gateway := "test", status := .form,
        amount := ⟨1999, 2, false⟩, paidAt := none, subscription := none, catalogItem := none,
        address := none, isRecurrent := false, parent := none, note := none,
        errorMessage := none, created := Instant.epoch, updated := Instant.epoch }
    let c₀ : Charge :=
      { Charge.ofDraft (Ident.ofSerial 3)
          { method := Ident.ofSerial 2, parent := p₀.id, chargeAt := Instant.epoch, retries := 2,
            customAmount := none, renewalItem := none, note := none } "tok" Instant.epoch with
        state := .pending, payment := some p₀.id }
    let g₀ : Gateway := { id := "test", answering := .scripted [] }
    let e₀ : Engine :=
      { now := Instant.epoch, gateways := ⟨[g₀]⟩,
        store := { payments := [p₀], rows := [⟨c₀, 1⟩], seq := 1, serial := 3 } }
    let r₀ : GatewayResponse := { code := "CALLBACK_FAIL", message := "", successful := false }
    Pending e₀ c₀.id c₀ p₀.id p₀ g₀ ∧ e₀.held = [] ∧
      (false = false → 0 < c₀.retries → ∃ due, shiftBy e₀.now e₀.policy.retryDelay = .ok due) ∧
      ∃ c' e', (resolvePending c₀.id false r₀).exec e₀ = .ok (.ok c', e') ∧
        e'.store.payment? p₀.id = some (Ledger.decided p₀ (callbackRequest g₀ false r₀) e₀.now) ∧
        e'.store.charge? c₀.id = some c' ∧
        (∃ due, (false = false → 0 < c₀.retries →
            shiftBy e₀.now e₀.policy.retryDelay = .ok due) ∧
          c' = { c₀.resolved false r₀ due with updated := e₀.now }) ∧
        e'.store.auditOf p₀.id = e₀.store.auditOf p₀.id ++ [logEntry p₀.id c₀.id r₀ e₀.now] ∧
        (resolvePending c₀.id false r₀).exec e' =
          .ok (.error (.illegalTransition c'.state .chargeFailed), e') := by
  intro p₀ c₀ g₀ e₀ r₀
  have hp : Pending e₀ c₀.id c₀ p₀.id p₀ g₀ := ⟨rfl, rfl, rfl, rfl, rfl⟩
  have hdue : false = false → 0 < c₀.retries → ∃ due, shiftBy e₀.now e₀.policy.retryDelay = .ok due :=
    fun _ _ => ⟨⟨86400, 0⟩, by decide +kernel⟩
  exact ⟨hp, rfl, hdue,
    ((callbacks_on_pending_charges e₀ c₀.id false r₀).2 c₀ p₀.id p₀ g₀ hp rfl).1 hdue⟩

end Run

end Rebill
