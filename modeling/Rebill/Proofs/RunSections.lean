import Rebill.Proofs.Sections
import Rebill.Proofs.FailureAtomicity

/-!
# Runs and status requests in sections

The operations that may overlap, written as workers: a run, the processing of one attempt with
the moves it makes, and a status request of the ledger. Each worker is written as its operation
is, with a section for each primitive that runs atomically, and each is proved to cut its
operation (`Worker.Cuts`): run alone, it is the operation. The reads that take no lock (the
fast-charge guard, the parent payment, the payment charged, the gateway, the policy) are
sections of their own, so that other workers may run between a read and what follows it.

The changes that the moves of an attempt hand to `Attempts.update` are anonymous in their
operations; `Attempts.transitionChange`, `Attempts.linkChange` and `Attempts.retryChange` name
them, and the equations `transition_eq`, `linkPayment_eq` and `rearmFailed_eq` say that the
operations are the updates with these changes.
-/

namespace Rebill

open Svc

namespace Attempts

/-- The change a transition makes: the move, when the table allows it. -/
def transitionChange (t : ChargeState) (actor : Actor) (u : ChargeUpdate) (c : Charge) :
    Svc Charge :=
  if c.state.allows t actor then pure (c.moveTo t u) else throw (.illegalTransition c.state t)

/-- The change a link makes: the payment, unless the attempt has one. -/
def linkChange (payment : Ident) (c : Charge) : Svc Charge :=
  pure (if c.payment.isNone then { c with payment := some payment } else c)

/-- The change re-arming makes: a failed attempt with retries left spends one and is due again
after the delay; one with none left is only noted. -/
def retryChange (delay : Span) (c : Charge) : Svc Charge := do
  if c.state != .chargeFailed then throw (.illegalTransition c.state .active)
  if c.retries ≤ 0 then pure (c.pushNote "Retries exhausted")
  else
    let due ← time (shiftBy (← now) delay)
    let c := { c with retries := c.retries - 1, state := .active, chargeAt := due, status := none }
    pure (c.pushNote ("Retry scheduled, " ++ toString c.retries ++ " left"))

theorem transition_eq (id : Ident) (t : ChargeState) (actor : Actor) (u : ChargeUpdate) :
    transition id t actor u = update id (transitionChange t actor u) := rfl

theorem transitionChange_change (t : ChargeState) (actor : Actor) (u : ChargeUpdate) :
    Change (transitionChange t actor u) :=
  transition_change t actor u

theorem linkChange_change (payment : Ident) : Change (linkChange payment) :=
  linkPayment_change payment

theorem retryChange_change (delay : Span) : Change (retryChange delay) :=
  rearmFailed_change delay

theorem linkPayment_eq (id payment : Ident) :
    linkPayment id payment = (do
      let c ← update id (linkChange payment)
      pure (c.payment.getD payment)) := rfl

theorem rearmFailed_eq (id : Ident) :
    rearmFailed id = (policy >>= fun pol => update id (retryChange pol.retryDelay)) := rfl

end Attempts

namespace Run

theorem reads_fastChargeConflict (c : Charge) : Reads (fastChargeConflict c) fun _ => True := by
  intro e r e' hx
  obtain ⟨r₀, hr₀, -⟩ := fastChargeConflict_exec c e
  rw [hr₀] at hx
  cases hx
  exact ⟨rfl, fun _ _ => trivial⟩

end Run

namespace Worker

/-! ## The moves of an attempt -/

/-- A locked change of the attempt `id`, then the announcement of its new state: how every move
of an attempt runs. -/
def announcing (id : Ident) (s : Section (ChargeState × Charge)) : Worker Charge := do
  let (old, c) ← lift s
  if old != c.state then lift (.emit (.chargeStateChanged id old c.state) "transition")
  pure c

theorem cuts_announcing (id : Ident) (s : Section (ChargeState × Charge)) :
    Cuts (do
      let (old, c) ← s.exec
      if old != c.state then emit (.chargeStateChanged id old c.state) "transition"
      pure c) (announcing id s) := by
  refine Cuts.bind (Cuts.lift s) fun ⟨old, c⟩ => ?_
  -- both sides name the rest after the announcement as a join point
  dsimp only
  exact Cuts.ite (fun _ => Cuts.bind (Cuts.lift _) fun _ => Cuts.pure c) fun _ => Cuts.pure c

def update (id : Ident) (change : Charge → Svc Charge) (h : Attempts.Change change) :
    Worker Charge :=
  announcing id (.update id change h)

theorem cuts_update (id : Ident) (change : Charge → Svc Charge) (h : Attempts.Change change) :
    Cuts (Attempts.update id change) (update id change h) :=
  cuts_announcing id (.update id change h)

def transition (id : Ident) (t : ChargeState) (actor : Actor) (u : ChargeUpdate) : Worker Charge :=
  update id (Attempts.transitionChange t actor u) (Attempts.transitionChange_change t actor u)

theorem cuts_transition (id : Ident) (t : ChargeState) (actor : Actor) (u : ChargeUpdate) :
    Cuts (Attempts.transition id t actor u) (transition id t actor u) := by
  rw [Attempts.transition_eq]
  exact cuts_update id _ _

def releaseClaim (id : Ident) : Worker Charge := announcing id (.release id)

theorem cuts_releaseClaim (id : Ident) : Cuts (Attempts.releaseClaim id) (releaseClaim id) :=
  cuts_announcing id (.release id)

def linkPayment (id payment : Ident) : Worker Ident := do
  let c ← update id (Attempts.linkChange payment) (Attempts.linkChange_change payment)
  pure (c.payment.getD payment)

theorem cuts_linkPayment (id payment : Ident) :
    Cuts (Attempts.linkPayment id payment) (linkPayment id payment) := by
  rw [Attempts.linkPayment_eq]
  exact Cuts.bind (cuts_update id _ _) fun c => Cuts.pure _

/-- Re-arming: the policy is read, then the attempt is changed. -/
def rearmFailed (id : Ident) : Worker Charge := do
  let pol ← lift (.read policy reads_policy)
  update id (Attempts.retryChange pol.retryDelay) (Attempts.retryChange_change pol.retryDelay)

theorem cuts_rearmFailed (id : Ident) : Cuts (Attempts.rearmFailed id) (rearmFailed id) := by
  rw [Attempts.rearmFailed_eq]
  exact Cuts.bind (Cuts.lift _) fun pol => cuts_update id _ _

/-! ## A status request -/

/-- The ledger's locked decision, then the event and the message of a change. -/
def updateStatus (id : Ident) (u : Ledger.StatusRequest) : Worker Bool := do
  match ← lift (.apply id u) with
  | none => pure false
  | some (old, new) =>
    lift (.emit (.paymentStatusChanged id old new u.notify) "update_status")
    lift (.publish ⟨id, u.notify⟩ "update_status")
    pure true

theorem cuts_updateStatus (id : Ident) (u : Ledger.StatusRequest) :
    Cuts (Ledger.updateStatus id u) (updateStatus id u) := by
  refine Cuts.bind (Cuts.lift _) fun r => ?_
  rcases r with _ | ⟨old, new⟩
  · exact Cuts.pure _
  · exact Cuts.bind (Cuts.lift _) fun _ => Cuts.bind (Cuts.lift _) fun _ => Cuts.pure _

/-! ## Charging one attempt -/

def settle (p : Payment) (g : Gateway) (r : GatewayResponse) : Worker Bool :=
  updateStatus p.id { status := g.paidStatus, notify := true, paidAt := g.chargedAt r }

def fail (p : Payment) (r : GatewayResponse) (notify : Bool) : Worker Bool :=
  updateStatus p.id { status := .fail, notify, errorMessage := some (r.code ++ ": " ++ r.message) }

def stopFast (c : Charge) : Worker Run.Prepared := do
  let _ ← transition c.id .systemStop .system
    { status := some Run.fastChargeCode, note := some "Fast charge" }
  return .done .fastCharge

theorem cuts_stopFast (c : Charge) : Cuts (Run.stopFast c) (stopFast c) :=
  Cuts.bind (cuts_transition _ _ _ _) fun _ => Cuts.pure _

def openPayment (c : Charge) : Worker Ident := do
  let parent ← lift (.read (Run.parentPayment c) (Run.reads_parentPayment c))
  let p ← lift (.createFor c parent)
  linkPayment c.id p.id

theorem cuts_openPayment (c : Charge) : Cuts (Run.openPayment c) (openPayment c) :=
  Cuts.bind (Cuts.lift _) fun _ => Cuts.bind (Cuts.lift _) fun _ => cuts_linkPayment _ _

def paymentFor (c : Charge) : Worker Ident :=
  match c.payment with
  | some pid => pure pid
  | none => openPayment c

theorem cuts_paymentFor (c : Charge) : Cuts (Run.paymentFor c) (paymentFor c) := by
  unfold Run.paymentFor paymentFor
  cases c.payment with
  | some pid => exact Cuts.pure pid
  | none => exact cuts_openPayment c

def completeAlreadyPaid (c : Charge) (p : Payment) : Worker Unit := do
  let _ ← transition c.id .charged .system Run.alreadyPaidUpdate
  lift (.log p.id c.id Run.alreadyPaidResponse)

theorem cuts_completeAlreadyPaid (c : Charge) (p : Payment) :
    Cuts (Run.completeAlreadyPaid c p) (completeAlreadyPaid c p) :=
  Cuts.bind (cuts_transition _ _ _ _) fun _ => Cuts.lift _

def completeOrCall (c : Charge) (pid : Ident) : Worker Run.Prepared := do
  let p ← lift (.read (Run.chargedPayment pid) (Run.reads_chargedPayment pid))
  if p.status.isPaidLike then
    completeAlreadyPaid c p
    return .done .charged
  return .call p (← lift (.read (requireGateway p.gateway) (Expiry.reads_requireGateway _)))

theorem cuts_completeOrCall (c : Charge) (pid : Ident) :
    Cuts (Run.completeOrCall c pid) (completeOrCall c pid) := by
  refine Cuts.bind (Cuts.lift _) fun p => ?_
  exact Cuts.ite (fun _ => Cuts.bind (cuts_completeAlreadyPaid c p) fun _ => Cuts.pure _)
    fun _ => Cuts.bind (Cuts.lift _) fun _ => Cuts.pure _

def prepare (c : Charge) : Worker Run.Prepared := do
  if (← lift (.read (Run.fastChargeConflict c) (Run.reads_fastChargeConflict c))).isSome then
    stopFast c
  else completeOrCall c (← paymentFor c)

theorem cuts_prepare (c : Charge) : Cuts (Run.prepare c) (prepare c) := by
  refine Cuts.bind (Cuts.lift _) fun conflict => ?_
  exact Cuts.ite (fun _ => cuts_stopFast c)
    fun _ => Cuts.bind (cuts_paymentFor c) fun pid => cuts_completeOrCall c pid

def applyReply (c : Charge) (p : Payment) (g : Gateway) :
    ChargeReply → Worker (Run.Outcome × GatewayResponse)
  | .settled r => do
    let _ ← settle p g r
    let _ ← transition c.id .charged .system { status := some r.code }
    pure (.charged, r)
  | .pending r => do
    let _ ← transition c.id .pending .system { status := some r.code }
    pure (.pending, r)
  | .failed ⟨.retryable, r⟩ => do
    let _ ← fail p r false
    let _ ← transition c.id .chargeFailed .system { status := some r.code }
    let _ ← rearmFailed c.id
    pure (.failed, r)
  | .failed ⟨.terminal, r⟩ => do
    let _ ← fail p r true
    let _ ← transition c.id .systemStop .system
      { status := some r.code, note := some ("Terminal failure: " ++ r.message) }
    pure (.stopped, r)
  | .failed ⟨.hard, r⟩ => do
    lift (.count (.error "gateway_unhandled" "charge"))
    let _ ← transition c.id .active .system
      { status := some r.code, note := some ("Unhandled charge result " ++ r.code ++ ": " ++ r.message) }
    pure (.unhandled, r)

theorem cuts_applyReply (c : Charge) (p : Payment) (g : Gateway) (reply : ChargeReply) :
    Cuts (Run.applyReply c p g reply) (applyReply c p g reply) := by
  rcases reply with r | r | ⟨_ | _ | _, r⟩
  · exact Cuts.bind (cuts_updateStatus _ _) fun _ =>
      Cuts.bind (cuts_transition _ _ _ _) fun _ => Cuts.pure _
  · exact Cuts.bind (cuts_transition _ _ _ _) fun _ => Cuts.pure _
  · exact Cuts.bind (cuts_updateStatus _ _) fun _ => Cuts.bind (cuts_transition _ _ _ _) fun _ =>
      Cuts.bind (cuts_rearmFailed _) fun _ => Cuts.pure _
  · exact Cuts.bind (cuts_updateStatus _ _) fun _ =>
      Cuts.bind (cuts_transition _ _ _ _) fun _ => Cuts.pure _
  · exact Cuts.bind (Cuts.lift _) fun _ =>
      Cuts.bind (cuts_transition _ _ _ _) fun _ => Cuts.pure _

/-- One due attempt: the claim, the preparation (its error gives the claim back), the call, the
answer and its audit line. -/
def process (due : Charge) : Worker Run.Outcome := do
  let some c ← lift (.claim due.id)
    | lift (.count (.outcome Run.Outcome.skipped.name)); return .skipped
  let prepared ← tryCatch (prepare c) fun err => do
    let _ ← tryCatch (releaseClaim c.id) (fun _ => pure c)
    throw err
  match prepared with
  | .done o =>
    lift (.count (.outcome o.name))
    pure o
  | .call p g =>
    let reply ← lift (.call g p c)
    let (o, r) ← applyReply c p g reply
    lift (.log p.id c.id r)
    lift (.count (.outcome o.name))
    pure o

theorem cuts_process (due : Charge) : Cuts (Run.process due) (process due) := by
  refine Cuts.bind (Cuts.lift _) fun claimed => ?_
  rcases claimed with _ | c
  · exact Cuts.bind (Cuts.lift _) fun _ => Cuts.pure _
  refine Cuts.bind (Cuts.tryCatch (cuts_prepare c) fun err =>
    Cuts.bind (Cuts.tryCatch (cuts_releaseClaim c.id) fun _ => Cuts.pure c) fun _ =>
      Cuts.throw err) fun prepared => ?_
  rcases prepared with o | ⟨p, g⟩
  · exact Cuts.bind (Cuts.lift _) fun _ => Cuts.pure o
  · exact Cuts.bind (Cuts.lift _) fun reply => Cuts.bind (cuts_applyReply c p g reply)
      fun ⟨o, r⟩ => Cuts.bind (Cuts.lift _) fun _ => Cuts.bind (Cuts.lift _) fun _ => Cuts.pure o

/-! ## A run -/

def processAll : List Charge → Run.Summary → Worker Run.Summary
  | [], s => pure s
  | c :: rest, s => do
    let r ← tryCatch (.ok <$> process c) (fun err => pure (.error err))
    match r with
    | .error e =>
      if e.isSystemic then
        lift (.count (.error "systemic" "charge"))
        throw e
      lift (.count (.error "attempt" "charge"))
    | .ok _ => pure ()
    processAll rest (s.record c.id r)

theorem cuts_processAll (cs : List Charge) (s : Run.Summary) :
    Cuts (Run.processAll cs s) (processAll cs s) := by
  induction cs generalizing s with
  | nil => exact Cuts.pure s
  | cons c rest ih =>
    refine Cuts.bind (Cuts.tryCatch (Cuts.map _ (cuts_process c)) fun err => Cuts.pure _)
      fun r => ?_
    dsimp only
    rcases r with err | o
    · refine Cuts.ite (fun _ => ?_) fun _ => ?_
      · exact Cuts.bind (Cuts.lift _) fun _ => Cuts.bind (Cuts.throw err) fun _ =>
          Cuts.bind (Cuts.lift _) fun _ => ih _
      · exact Cuts.bind (Cuts.lift _) fun _ => ih _
    · exact ih _

/-- A run: the due attempts are loaded, then processed one by one. -/
def run (ids : Option (List Ident)) : Worker Run.Summary := do
  processAll (← lift (.due ids)) {}

theorem cuts_run (ids : Option (List Ident)) : Cuts (Run.run ids) (run ids) := by
  unfold Run.run run
  exact Cuts.bind (Cuts.lift (.due ids)) fun due => cuts_processAll due {}

end Worker

end Rebill
