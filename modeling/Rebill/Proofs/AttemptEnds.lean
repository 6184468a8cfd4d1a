import Rebill.Proofs.Footprint
import Rebill.Proofs.Resolution

/-!
# How processing an attempt ends

A run takes each due attempt along one of a dozen ways through the program. This module states
each way as a rule, with the result it ends with and the writes it makes, in order, and shows that
the rules are the runs of the plan of processing an attempt (`Plan.process`).

The rules are nested as the program is. `View.Ends` is the claim: the attempt is missing, is not
claimable and is skipped, or is claimed, marked in flight. `View.EndsClaimed` says how the claimed
attempt ends: stopped by the fast-charge guard, with no payment, no call and no audit line; failed
for want of its parent payment, of its linked payment or of the payment's gateway, the claim given
back; marked charged without a call when its payment is already paid; or charged through the
gateway, whose reply `View.Answered` acts on. The payment it is charged on is its linked payment,
or one drafted from its parent, opened and linked (`View.ChargedOn`).

Main statements, for the view `v` of an attempt and the identifier `k` a payment opened for it
takes:
* `View.Ends.run`: each rule gives the run of the plan;
* `View.ends_of_fits`: when the lookahead and the retry delay keep the clock on the time line,
  some rule applies;
* `View.ends_iff_run`: there, the rules are exactly the runs.
-/

namespace Rebill

open Svc

/-! ## The writes of the steps of a run -/

/-- An attempt a claim takes by `due`: active, without status, and due by then. -/
def Charge.Claimable (c : Charge) (due : Instant) : Prop :=
  c.state = .active ∧ c.status = none ∧ c.chargeAt ≤ due

instance (c : Charge) (due : Instant) : Decidable (c.Claimable due) :=
  inferInstanceAs (Decidable (_ ∧ _ ∧ _))

theorem Charge.claimable_iff {c : Charge} {due : Instant} :
    c.Claimable due ↔ (c.state != .active || c.status.isSome || decide (c.chargeAt > due)) = false := by
  have hlt : ¬c.chargeAt > due ↔ c.chargeAt ≤ due := Int.not_lt
  simp [Charge.Claimable, hlt, and_assoc]

/-- What a run asks of the ledger on a failed charge: `fail`, with the code and the message as
error, telling the user or not. -/
def Run.failRequest (r : GatewayResponse) (notify : Bool) : Ledger.StatusRequest :=
  { status := .fail, notify, errorMessage := some (r.code ++ ": " ++ r.message) }

namespace Plan

/-- The writes of moving the stored attempt `cur` to `t` with the update `u`: the moved attempt
saved, and the change of state announced when there is one. -/
def moveWrites (cur : Charge) (t : ChargeState) (u : ChargeUpdate) : List Write :=
  .save (cur.moveTo t u) ::
    if cur.state != t then [.announce (.chargeStateChanged cur.id cur.state t) "transition"] else []

/-- The writes of the status request `u` on the payment `p` at `t`: a declined request counted,
as a no-op for the status the payment has or as refused for a failure of a paid payment; or the
status written, counted as applied, announced by an event and posted as a message. -/
def ledgerWrites (p : Payment) (u : Ledger.StatusRequest) (t : Instant) : List Write :=
  if p.status == u.status then [.tally (.statusTransition "noop" u.status)]
  else if p.status.isPaidLike && u.status == .fail then [.tally (.statusTransition "rejected" u.status)]
  else [.status p.id (u.writeOn p t), .tally (.statusTransition "applied" u.status),
    .announce (.paymentStatusChanged p.id p.status u.status u.notify) "update_status",
    .post ⟨p.id, u.notify⟩ "update_status"]

variable {α β : Type} {p : Plan α} {f : α → Plan β} {a : α} {ws ws' : List Write}

theorem run_bind_of_ok {r : Except BillingError β} {wsf : List Write} (hp : p.run = .ok (.ok a, ws))
    (hf : (f a).run = .ok (r, ws')) (hws : ws ++ ws' = wsf) : (p >>= f).run = .ok (r, wsf) := by
  rw [run_bind, hp]
  dsimp only
  rw [hf, ← hws]
  rfl

theorem run_bind_of_error {err : BillingError} (hp : p.run = .ok (.error err, ws)) :
    (p >>= f).run = .ok (.error err, ws) := by
  rw [run_bind, hp]

theorem run_recover_of_ok {h : BillingError → Plan α} (hp : p.run = .ok (.ok a, ws)) :
    (p.recover h).run = .ok (.ok a, ws) := by
  rw [run_recover, hp]

theorem run_recover_of_error {h : BillingError → Plan α} {err : BillingError} {r : Except BillingError α}
    {wsf : List Write} (hp : p.run = .ok (.error err, ws)) (hh : (h err).run = .ok (r, ws'))
    (hws : ws ++ ws' = wsf) : (p.recover h).run = .ok (r, wsf) := by
  rw [run_recover, hp]
  dsimp only
  rw [hh, ← hws]
  rfl

variable {cur : Charge} {t : ChargeState} {actor : Actor} {u : ChargeUpdate} {now : Instant}

theorem transition_run_of_allows (h : cur.state.allows t actor = true) :
    (transition cur t actor u now).run =
      .ok (.ok (cur.savedOver (cur.moveTo t u) now), moveWrites cur t u) := by
  unfold transition moveChange
  rw [if_pos h, run_update_ok]
  simp [moveWrites, Charge.savedOver]

theorem allows_active (h : cur.state = .active) (ht : t ≠ .userStop ∧ t ≠ .adminStop) :
    cur.state.allows t .system = true := by
  rw [h]
  cases t <;> simp_all [ChargeState.allows, ChargeState.step]

theorem ledger_run_writes (p : Payment) (u : Ledger.StatusRequest) (t : Instant) :
    (ledger p u t).run = .ok (.ok !(Ledger.declines p u), ledgerWrites p u t) := by
  unfold ledger applyLocked ledgerWrites
  by_cases h₁ : (p.status == u.status) = true
  · simp [h₁, Ledger.declines, run_bind, Except.map]
  by_cases h₂ : (p.status.isPaidLike && u.status == .fail) = true
  · simp [h₁, h₂, Ledger.declines, run_bind, Except.map]
  · simp [h₁, h₂, Ledger.declines, run_bind, Except.map]

theorem release_run_of_inFlight (hst : cur.state = .active) (hfl : cur.status = some inFlight) :
    (release cur now).run =
      .ok (.ok (cur.savedOver { cur with status := none } now), [.save { cur with status := none }]) := by
  unfold release
  rw [if_pos (by simp [hst, hfl]), run_update_ok]
  simp [Charge.savedOver]

end Plan

/-! ## The rules -/

namespace View

variable (v : View)

/-- The attempt `cur` as the claim leaves it: in flight. -/
def claimed (cur : Charge) : Charge := cur.savedOver { cur with status := some inFlight } v.now

/-- The attempt `cur` as a retryable failure leaves it, before the re-arm. -/
def failed (cur : Charge) (r : GatewayResponse) : Charge :=
  cur.savedOver (cur.moveTo .chargeFailed { status := some r.code }) v.now

/-- The payment `p` the claimed attempt `c` is charged on: the payment it is linked to, as read,
or, when it has none, the payment drafted from its parent and opened as `k`. -/
inductive ChargedOn (c : Charge) (k : Ident) : Payment → Prop
  | linked {pid : Ident} {p : Payment} (hp : c.payment = some pid) (hl : v.linked = some p) :
      ChargedOn c k p
  | opened {d : PaymentDraft} (hp : c.payment = none) (hd : v.draft = some d) :
      ChargedOn c k (Payment.ofDraft k d v.now)

/-- What the gateway `g`'s reply does, for the attempt stored as `cur` and its payment `p`: the
outcome, the answer logged, and the writes. A settled charge settles the payment, telling the
user, and charges the attempt; a pending one waits for a callback; a retryable failure fails the
payment quietly and fails the attempt, then re-arms it when it has retries left, or notes them
spent; a terminal failure fails the payment, telling the user, and stops the attempt; any other
failure is counted and leaves the attempt active with the code as status, for a person to look
at. -/
inductive Answered (cur : Charge) (p : Payment) (g : Gateway) :
    ChargeReply → Run.Outcome → GatewayResponse → List Write → Prop
  | settled (r : GatewayResponse) :
      Answered cur p g (.settled r) .charged r
        (Plan.ledgerWrites p { status := g.paidStatus, notify := true, paidAt := g.chargedAt r } v.now ++
          Plan.moveWrites cur .charged { status := some r.code })
  | pending (r : GatewayResponse) :
      Answered cur p g (.pending r) .pending r (Plan.moveWrites cur .pending { status := some r.code })
  | exhausted (r : GatewayResponse) (hr : cur.retries ≤ 0) :
      Answered cur p g (.failed ⟨.retryable, r⟩) .failed r
        (Plan.ledgerWrites p (Run.failRequest r false) v.now ++
          Plan.moveWrites cur .chargeFailed { status := some r.code } ++
          [.save ((v.failed cur r).pushNote "Retries exhausted")])
  | retried (r : GatewayResponse) {due : Instant} (hr : 0 < cur.retries)
      (hdue : shiftBy v.now v.policy.retryDelay = .ok due) :
      Answered cur p g (.failed ⟨.retryable, r⟩) .failed r
        (Plan.ledgerWrites p (Run.failRequest r false) v.now ++
          Plan.moveWrites cur .chargeFailed { status := some r.code } ++
          [.save ((v.failed cur r).rearmed due),
            .announce (.chargeStateChanged cur.id .chargeFailed .active) "transition"])
  | stopped (r : GatewayResponse) :
      Answered cur p g (.failed ⟨.terminal, r⟩) .stopped r
        (Plan.ledgerWrites p (Run.failRequest r true) v.now ++
          Plan.moveWrites cur .systemStop
            { status := some r.code, note := some ("Terminal failure: " ++ r.message) })
  | unhandled (r : GatewayResponse) :
      Answered cur p g (.failed ⟨.hard, r⟩) .unhandled r
        (.tally (.error "gateway_unhandled" "charge") :: Plan.moveWrites cur .active
          { status := some r.code, note := some ("Unhandled charge result " ++ r.code ++ ": " ++ r.message) })

/-- How the claimed attempt `c` ends, with `k` the identifier a payment opened for it takes: the
result and the writes after the claim. -/
inductive EndsClaimed (k : Ident) (c : Charge) : Except BillingError Run.Outcome → List Write → Prop
  /-- The fast-charge guard stops it: no payment is opened, no gateway asked, no audit line
  written. -/
  | fastCharge (hs : v.stops c = true) :
      EndsClaimed k c (.ok .fastCharge)
        (Plan.moveWrites c .systemStop { status := some Run.fastChargeCode, note := some "Fast charge" } ++
          [.tally (.outcome "fast_charge")])
  /-- It has no payment and its parent payment is not stored: the claim is given back. -/
  | noParent (hs : v.stops c = false) (hp : c.payment = none) (hd : v.draft = none) :
      EndsClaimed k c (.error (.notFound ("Parent payment " ++ c.parent.text)))
        [.save { c with status := none }]
  /-- The payment it is linked to is not stored: the claim is given back. -/
  | noPayment {pid : Ident} (hs : v.stops c = false) (hp : c.payment = some pid) (hl : v.linked = none) :
      EndsClaimed k c (.error (.notFound ("Payment " ++ pid.text))) [.save { c with status := none }]
  /-- Its payment is already paid: it is marked charged without a call, and logged. -/
  | alreadyPaid {p : Payment} (hs : v.stops c = false) (hon : v.ChargedOn c k p)
      (hpaid : p.status.isPaidLike = true) :
      EndsClaimed k c (.ok .charged)
        (Plan.openWrites v c k ++ Plan.moveWrites (v.staged c k) .charged Run.alreadyPaidUpdate ++
          [.audit (Run.logEntry p.id c.id Run.alreadyPaidResponse v.now), .tally (.outcome "charged")])
  /-- Its payment's gateway is not registered: the claim is given back, the payment left open. -/
  | noGateway {p : Payment} (hs : v.stops c = false) (hon : v.ChargedOn c k p)
      (hpaid : p.status.isPaidLike = false) (hg : v.gateway p.gateway = none) :
      EndsClaimed k c (.error (.gateway (GatewayRegistry.unknown p.gateway)))
        (Plan.openWrites v c k ++ [.save { v.staged c k with status := none }])
  /-- The gateway is asked to charge the payment; the reply does the rest, and is logged. -/
  | called {p : Payment} {g : Gateway} {o : Run.Outcome} {r : GatewayResponse} {ws : List Write}
      (hs : v.stops c = false) (hon : v.ChargedOn c k p) (hpaid : p.status.isPaidLike = false)
      (hg : v.gateway p.gateway = some g) (ha : v.Answered (v.staged c k) p g (g.charge p c.token).1 o r ws) :
      EndsClaimed k c (.ok o)
        (Plan.openWrites v c k ++ .charge g p c :: ws ++
          [.audit (Run.logEntry p.id c.id r v.now), .tally (.outcome o.name)])

/-- How processing the attempt of the view ends, with `k` the identifier a payment opened for it
takes: the result, and the writes in order. -/
inductive Ends (k : Ident) : Except BillingError Run.Outcome → List Write → Prop
  /-- The attempt is not stored. -/
  | missing (hc : v.charge = none) : Ends k (.error (.notFound ("Recurrent charge " ++ v.id.text))) []
  /-- The attempt is not claimable by the end of the lookahead: it is skipped. -/
  | skipped {cur : Charge} {due : Instant} (hc : v.charge = some cur)
      (hdue : shiftBy v.now v.policy.lookahead = .ok due) (hnot : ¬cur.Claimable due) :
      Ends k (.ok .skipped) [.tally (.outcome "skipped")]
  /-- The attempt is claimed, marked in flight, and ends as the claimed attempt does. -/
  | taken {cur : Charge} {due : Instant} {r : Except BillingError Run.Outcome} {ws : List Write}
      (hc : v.charge = some cur) (hdue : shiftBy v.now v.policy.lookahead = .ok due)
      (hcl : cur.Claimable due) (hend : v.EndsClaimed k (v.claimed cur) r ws) :
      Ends k r (.save { cur with status := some inFlight } :: ws)

end View

/-! ## The rules are the runs -/

namespace View

@[simp] theorem of_now (o : Observed) (x : Ident) : (View.of o x).now = o.now := rfl
@[simp] theorem of_policy (o : Observed) (x : Ident) : (View.of o x).policy = o.policy := rfl

variable {v : View} {c cur : Charge} {k : Ident}

@[simp] theorem claimed_state : (v.claimed cur).state = cur.state := rfl
@[simp] theorem claimed_status : (v.claimed cur).status = some inFlight := rfl

@[simp] theorem failed_state {r : GatewayResponse} : (v.failed cur r).state = .chargeFailed := by
  simp [failed, Charge.savedOver]

@[simp] theorem failed_retries {r : GatewayResponse} : (v.failed cur r).retries = cur.retries := by
  simp [failed, Charge.savedOver]

@[simp] theorem staged_state : (v.staged c k).state = c.state := by
  unfold staged
  split <;> rfl

@[simp] theorem staged_status : (v.staged c k).status = c.status := by
  unfold staged
  split <;> rfl

theorem staged_of_not_opens (h : v.opens c = false) : v.staged c k = c := by
  simp [staged, h]

end View

namespace Plan

open View

variable {v : View} {c cur : Charge} {k pid : Ident} {p : Payment} {g : Gateway} {id : Ident}
  {now : Instant} {lookahead : Span} {due : Instant}

/-! ### The claim -/

theorem claim_run_missing :
    (claim none id now lookahead).run = .ok (.error (.notFound ("Recurrent charge " ++ id.text)), []) :=
  rfl

theorem claim_run_not_claimable (hdue : shiftBy now lookahead = .ok due) (hnot : ¬cur.Claimable due) :
    (claim (some cur) id now lookahead).run = .ok (.ok none, []) := by
  have htest := (Bool.eq_false_or_eq_true _).resolve_right (mt Charge.claimable_iff.mpr hnot)
  rw [claim, found_some, pure_bind, hdue, time_ok, pure_bind, if_pos htest]
  rfl

theorem claim_run_claimable (hdue : shiftBy now lookahead = .ok due) (hcl : cur.Claimable due) :
    (claim (some cur) id now lookahead).run =
      .ok (.ok (some (cur.savedOver { cur with status := some inFlight } now)),
        [.save { cur with status := some inFlight }]) := by
  have htest : ¬(cur.state != .active || cur.status.isSome || decide (cur.chargeAt > due)) = true := by
    rw [Charge.claimable_iff.mp hcl]
    exact Bool.false_ne_true
  rw [claim, found_some, pure_bind, hdue, time_ok, pure_bind, if_neg htest]
  rfl

/-! ### The preparation -/

theorem prepare_run_stops (hst : c.state = .active) (hs : v.stops c = true) :
    (prepare v c k).run = .ok (.ok (.done .fastCharge),
      moveWrites c .systemStop { status := some Run.fastChargeCode, note := some "Fast charge" }) := by
  rw [prepare, if_pos hs, stopFast]
  exact run_bind_of_ok (transition_run_of_allows (allows_active hst (by decide))) (run_pure _)
    (List.append_nil _)

theorem prepare_run_noParent (hs : v.stops c = false) (hp : c.payment = none) (hd : v.draft = none) :
    (prepare v c k).run = .ok (.error (.notFound ("Parent payment " ++ c.parent.text)), []) := by
  have hpay : (paymentFor v.draft c k v.now).run =
      .ok (.error (.notFound ("Parent payment " ++ c.parent.text)), []) := by
    simp [paymentFor, hp, openPayment, hd, found]
  rw [prepare, if_neg (by simp [hs])]
  exact run_bind_of_error hpay

theorem prepare_run_noPayment (hs : v.stops c = false) (hp : c.payment = some pid) (hl : v.linked = none) :
    (prepare v c k).run = .ok (.error (.notFound ("Payment " ++ pid.text)), []) := by
  have ho : v.opens c = false := by simp [View.opens, hp]
  have hpay : (paymentFor v.draft c k v.now).run = .ok (.ok pid, []) := by
    simp [paymentFor, hp]
  rw [prepare, if_neg (by simp [hs])]
  refine run_bind_of_ok hpay ?_ (List.nil_append _)
  simp [completeOrCall, View.payment, ho, hl, found]

theorem paymentFor_run_of_chargedOn (hs : v.stops c = false) (hon : v.ChargedOn c k p) :
    ∃ pid, (paymentFor v.draft c k v.now).run = .ok (.ok pid, openWrites v c k) ∧
      v.payment c k = some p := by
  cases hon with
  | @linked pid q hp hl =>
    have ho : v.opens c = false := by simp [View.opens, hp]
    exact ⟨pid, by simp [paymentFor, hp, openWrites, ho], by simp [View.payment, ho, hl]⟩
  | opened hp hd =>
    have ho : v.opens c = true := by simp [View.opens, hs, hp, hd]
    refine ⟨k, ?_, by simp [View.payment, ho, hd]⟩
    simp [paymentFor, openPayment, found, create, link, run_bind, run_update_ok, hp, hd, openWrites, ho,
      Charge.savedOver, Payment.ofDraft, Except.map]

theorem completeOrCall_run_paid {gw : String → Option Gateway} (hst : cur.state = .active)
    (hpaid : p.status.isPaidLike = true) :
    (completeOrCall gw c cur pid (some p) now).run = .ok (.ok (.done .charged),
      moveWrites cur .charged Run.alreadyPaidUpdate ++ [.audit (Run.logEntry p.id c.id Run.alreadyPaidResponse now)]) := by
  rw [completeOrCall, found_some, pure_bind, if_pos hpaid]
  exact run_bind_of_ok (run_bind_of_ok (transition_run_of_allows (allows_active hst (by decide)))
    (run_write _) rfl) (run_pure _) (List.append_nil _)

theorem completeOrCall_run_unknown {gw : String → Option Gateway} (hpaid : p.status.isPaidLike = false)
    (hg : gw p.gateway = none) :
    (completeOrCall gw c cur pid (some p) now).run =
      .ok (.error (.gateway (GatewayRegistry.unknown p.gateway)), []) := by
  simp [completeOrCall, found, hpaid, hg, run_bind, Except.map]

theorem completeOrCall_run_call {gw : String → Option Gateway} (hpaid : p.status.isPaidLike = false)
    (hg : gw p.gateway = some g) :
    (completeOrCall gw c cur pid (some p) now).run = .ok (.ok (.call p g), []) := by
  simp [completeOrCall, found, hpaid, hg, run_bind, Except.map]

/-! ### Giving the claim back, and the reply -/

theorem prepareOrRelease_run_error {err : BillingError} {ws : List Write}
    (hst : c.state = .active) (hfl : c.status = some inFlight) (h : (prepare v c k).run = .ok (.error err, ws)) :
    (prepareOrRelease v k c).run = .ok (.error err, ws ++ [.save { v.staged c k with status := none }]) := by
  have hrel : (release (v.staged c k) v.now).run = .ok (.ok ((v.staged c k).savedOver
      { v.staged c k with status := none } v.now), [.save { v.staged c k with status := none }]) :=
    release_run_of_inFlight (by simp [hst]) (by simp [hfl])
  exact run_recover_of_error h (run_bind_of_ok (run_recover_of_ok hrel) (run_fail _) rfl) rfl

theorem finish_run_done (o : Run.Outcome) :
    (finish v k c (.done o)).run = .ok (.ok o, [.tally (.outcome o.name)]) :=
  rfl

end Plan

namespace View

open Plan

section Reply

variable {v : View} {c cur : Charge} {k : Ident} {p : Payment} {g : Gateway} {o : Run.Outcome}
  {r : GatewayResponse} {ws : List Write}

theorem Answered.run (hst : cur.state = .active) {a : ChargeReply} (h : v.Answered cur p g a o r ws) :
    (reply v.policy.retryDelay v.now cur p g a).run = .ok (.ok (o, r), ws) := by
  cases h with
  | settled r =>
    exact run_bind_of_ok (ledger_run_writes _ _ _) (run_bind_of_ok
      (transition_run_of_allows (allows_active hst (by decide))) (run_pure _) (List.append_nil _)) rfl
  | pending r =>
    exact run_bind_of_ok (transition_run_of_allows (allows_active hst (by decide))) (run_pure _)
      (List.append_nil _)
  | exhausted r hr =>
    refine run_bind_of_ok (ledger_run_writes _ _ _) (run_bind_of_ok
      (transition_run_of_allows (allows_active hst (by decide))) (run_bind_of_ok
        (rearm_run_spent (by simp [Charge.savedOver]) (by simpa [Charge.savedOver] using hr)) (run_pure _) rfl) rfl) ?_
    simp [View.failed, Run.failRequest]
  | retried r hr hdue =>
    refine run_bind_of_ok (ledger_run_writes _ _ _) (run_bind_of_ok
      (transition_run_of_allows (allows_active hst (by decide))) (run_bind_of_ok
        (rearm_run_retry (by simp [Charge.savedOver]) (by simpa [Charge.savedOver] using hr) hdue) (run_pure _) rfl) rfl) ?_
    simp [View.failed, Charge.savedOver, Run.failRequest]
  | stopped r =>
    exact run_bind_of_ok (ledger_run_writes _ _ _) (run_bind_of_ok
      (transition_run_of_allows (allows_active hst (by decide))) (run_pure _) (List.append_nil _)) rfl
  | unhandled r =>
    exact run_bind_of_ok (run_write _) (run_bind_of_ok
      (transition_run_of_allows (allows_active hst (by decide))) (run_pure _) (List.append_nil _)) rfl

theorem finish_run_call (hst : c.state = .active)
    (ha : v.Answered (v.staged c k) p g (g.charge p c.token).1 o r ws) :
    (finish v k c (.call p g)).run = .ok (.ok o,
      .charge g p c :: ws ++ [.audit (Run.logEntry p.id c.id r v.now), .tally (.outcome o.name)]) :=
  run_bind_of_ok (run_bind_of_ok (run_write _) (run_pure _) rfl) (run_bind_of_ok
    (ha.run (by simp [hst])) (run_bind_of_ok (run_write _) (run_bind_of_ok (run_write _) (run_pure _) rfl)
      rfl) rfl) (by simp)

end Reply

variable {v : View} {c cur : Charge} {k : Ident} {r : Except BillingError Run.Outcome} {ws : List Write}

theorem EndsClaimed.run (hst : c.state = .active) (hfl : c.status = some inFlight)
    (h : v.EndsClaimed k c r ws) : (prepareOrRelease v k c >>= finish v k c).run = .ok (r, ws) := by
  cases h with
  | fastCharge hs =>
    exact run_bind_of_ok (run_recover_of_ok (prepare_run_stops hst hs)) (finish_run_done _) rfl
  | noParent hs hp hd =>
    have ho : v.opens c = false := by simp [View.opens, hd]
    have hrel := prepareOrRelease_run_error hst hfl (prepare_run_noParent (k := k) hs hp hd)
    rw [staged_of_not_opens ho] at hrel
    exact run_bind_of_error hrel
  | noPayment hs hp hl =>
    have ho : v.opens c = false := by simp [View.opens, hp]
    have hrel := prepareOrRelease_run_error hst hfl (prepare_run_noPayment (k := k) hs hp hl)
    rw [staged_of_not_opens ho] at hrel
    exact run_bind_of_error hrel
  | @alreadyPaid p hs hon hpaid =>
    obtain ⟨pid, hpay, hfound⟩ := paymentFor_run_of_chargedOn hs hon
    have hprep : (prepare v c k).run = .ok (.ok (.done .charged), openWrites v c k ++
        (moveWrites (v.staged c k) .charged Run.alreadyPaidUpdate ++
          [.audit (Run.logEntry p.id c.id Run.alreadyPaidResponse v.now)])) := by
      rw [prepare, if_neg (by simp [hs]), hfound]
      exact run_bind_of_ok hpay (completeOrCall_run_paid (by simp [hst]) hpaid) rfl
    exact run_bind_of_ok (run_recover_of_ok hprep) (finish_run_done _) (by simp [Run.Outcome.name])
  | @noGateway p hs hon hpaid hg =>
    obtain ⟨pid, hpay, hfound⟩ := paymentFor_run_of_chargedOn hs hon
    have hprep : (prepare v c k).run = .ok (.error (.gateway (GatewayRegistry.unknown p.gateway)),
        openWrites v c k) := by
      rw [prepare, if_neg (by simp [hs]), hfound]
      exact run_bind_of_ok hpay (completeOrCall_run_unknown hpaid hg) (List.append_nil _)
    exact run_bind_of_error (prepareOrRelease_run_error hst hfl hprep)
  | @called p g o resp ws hs hon hpaid hg ha =>
    obtain ⟨pid, hpay, hfound⟩ := paymentFor_run_of_chargedOn hs hon
    have hprep : (prepare v c k).run = .ok (.ok (.call p g), openWrites v c k) := by
      rw [prepare, if_neg (by simp [hs]), hfound]
      exact run_bind_of_ok hpay (completeOrCall_run_call hpaid hg) (List.append_nil _)
    exact run_bind_of_ok (run_recover_of_ok hprep) (finish_run_call hst ha) (by simp)

theorem Ends.run (h : v.Ends k r ws) : (process v k).run = .ok (r, ws) := by
  rw [process_eq]
  cases h with
  | missing hc =>
    rw [hc]
    exact run_bind_of_error claim_run_missing
  | skipped hc hdue hnot =>
    rw [hc]
    exact run_bind_of_ok (claim_run_not_claimable hdue hnot)
      (run_bind_of_ok (run_write _) (run_pure _) rfl) rfl
  | taken hc hdue hcl hend =>
    rw [hc]
    exact run_bind_of_ok (claim_run_claimable hdue hcl) (hend.run hcl.1 rfl) rfl

/-! ## Every attempt ends by a rule -/

section Fits

variable (v : View)

theorem answered_exists (hre : ∃ t, shiftBy v.now v.policy.retryDelay = .ok t) (cur : Charge)
    (p : Payment) (g : Gateway) : ∀ a, ∃ o r ws, v.Answered cur p g a o r ws
  | .settled r => ⟨_, _, _, .settled r⟩
  | .pending r => ⟨_, _, _, .pending r⟩
  | .failed ⟨.retryable, r⟩ => by
    by_cases hr : cur.retries ≤ 0
    · exact ⟨_, _, _, .exhausted r hr⟩
    · obtain ⟨due, hdue⟩ := hre
      exact ⟨_, _, _, .retried r (by omega) hdue⟩
  | .failed ⟨.terminal, r⟩ => ⟨_, _, _, .stopped r⟩
  | .failed ⟨.hard, r⟩ => ⟨_, _, _, .unhandled r⟩

variable {v} (k : Ident)

theorem endsClaimed_of_chargedOn (hre : ∃ t, shiftBy v.now v.policy.retryDelay = .ok t) {c : Charge}
    {p : Payment} (hs : v.stops c = false) (hon : v.ChargedOn c k p) : ∃ r ws, v.EndsClaimed k c r ws := by
  cases hpaid : p.status.isPaidLike
  · rcases hg : v.gateway p.gateway with _ | g
    · exact ⟨_, _, .noGateway hs hon hpaid hg⟩
    · obtain ⟨o, r, ws, ha⟩ := v.answered_exists hre (v.staged c k) p g (g.charge p c.token).1
      exact ⟨_, _, .called hs hon hpaid hg ha⟩
  · exact ⟨_, _, .alreadyPaid hs hon hpaid⟩

theorem endsClaimed_exists (hre : ∃ t, shiftBy v.now v.policy.retryDelay = .ok t) (c : Charge) :
    ∃ r ws, v.EndsClaimed k c r ws := by
  cases hs : v.stops c
  case true => exact ⟨_, _, .fastCharge hs⟩
  case false =>
    -- the payment is its own, found or not, or one opened from its parent, if the parent is stored
    rcases hp : c.payment with _ | pid
    · rcases hd : v.draft with _ | d
      · exact ⟨_, _, .noParent hs hp hd⟩
      · exact endsClaimed_of_chargedOn k hre hs (.opened hp hd)
    · rcases hl : v.linked with _ | p
      · exact ⟨_, _, .noPayment hs hp hl⟩
      · exact endsClaimed_of_chargedOn k hre hs (.linked hp hl)

theorem ends_of_fits (hla : ∃ t, shiftBy v.now v.policy.lookahead = .ok t)
    (hre : ∃ t, shiftBy v.now v.policy.retryDelay = .ok t) : ∃ r ws, v.Ends k r ws := by
  rcases hc : v.charge with _ | cur
  · exact ⟨_, _, .missing hc⟩
  obtain ⟨due, hdue⟩ := hla
  by_cases hcl : cur.Claimable due
  · obtain ⟨r, ws, hend⟩ := endsClaimed_exists k hre (v.claimed cur)
    exact ⟨_, _, .taken hc hdue hcl hend⟩
  · exact ⟨_, _, .skipped hc hdue hcl⟩

theorem ends_iff_run (hla : ∃ t, shiftBy v.now v.policy.lookahead = .ok t)
    (hre : ∃ t, shiftBy v.now v.policy.retryDelay = .ok t) {r : Except BillingError Run.Outcome}
    {ws : List Write} : (Plan.process v k).run = .ok (r, ws) ↔ v.Ends k r ws := by
  constructor
  · intro h
    obtain ⟨r', ws', hend⟩ := ends_of_fits k hla hre
    rw [hend.run] at h
    obtain ⟨rfl, rfl⟩ := Prod.mk.inj (Except.ok.inj h)
    exact hend
  · exact Ends.run

end Fits

end View

end Rebill
