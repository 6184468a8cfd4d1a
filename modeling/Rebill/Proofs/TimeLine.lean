import Rebill.Proofs.Operations

/-!
# Operations stop only off the time line

Time arithmetic is the one way an operation of the service ends without an answer: an instant
moved past an end of the time line, or a span of more days or hours than a span holds, is an
`Overflow`, which ends the operation and everything after it. Nothing reports it as an error.
This module shows where those stops can happen, and that they are the only ones.

The operations move the clock in four ways: a run looks ahead by the lookahead (to claim and to
queue attempts), a failed attempt is re-armed after the retry delay, and a reactivation looks
back over the reactivation window and forward by the reactivation delay. `Engine.ClockFits` says
that all four moves of the current instant stay on the time line. Scheduling the next attempt
moves the paid instant by the catalog length in days and the paid-through instant back by the
lead time in hours; `Terms.Fits` says that both spans and both instants exist. With these, every
operation finishes (`operations_finish_on_the_time_line`).

Neither condition follows from the settings or the schedule being accepted: a catalog length of
more days than a span holds stops the schedule where an error was due
(`nextChargeAt_stops_beyond_span`), and a lookahead past the end of the time line stops every
run (`chargeable_stops_off_the_time_line`).

The proofs walk each operation with `Svc.finishes_bind`. Every step but `time` finishes, and
`time` finishes on the moves that `ClockFits` names. No step changes the clock or the policy
(`Engine.KeepsClock`), so those moves are the same at every step of an operation.
-/

namespace Rebill

open Svc

/-! ## Scheduling -/

/-- The arithmetic of a schedule is in range: the paid instant moved by the catalog length in
days, when the payment is paid through that, and the paid-through instant moved back by the lead
time in hours, when there is one and the payment belongs to a subscription. -/
structure Terms.Fits (terms : Terms) (p : Payment) (sub : Option Subscription)
    (globalLead : Option Int) : Prop where
  length : ∀ paid, sub = none → p.paidAt = some paid → 0 < terms.lengthDays →
    ∃ t, (spanOfDays terms.lengthDays >>= shiftBy paid) = .ok t
  lead : ∀ through hours, (paidThrough p sub terms).run = .ok (.ok through) →
    terms.lead globalLead = some hours → p.subscription.isSome = true →
    ∃ t, (spanOfHours hours >>= shiftBack through) = .ok t

/-- A step of a schedule that does not stop on an overflow: it gives an instant or a schedule
error. -/
def Settles {α : Type} (x : ExceptT ScheduleError (Except Overflow) α) : Prop :=
  ∃ r, x.run = .ok r

section Settles

variable {α β : Type}

theorem settles_pure (a : α) : Settles (pure a : ExceptT ScheduleError (Except Overflow) α) :=
  ⟨.ok a, rfl⟩

theorem settles_throw (err : ScheduleError) :
    Settles (throw err : ExceptT ScheduleError (Except Overflow) α) :=
  ⟨.error err, rfl⟩

theorem settles_throw_bind (err : ScheduleError)
    (f : α → ExceptT ScheduleError (Except Overflow) β) : Settles (throw err >>= f) :=
  ⟨.error err, rfl⟩

theorem settles_bind {x : ExceptT ScheduleError (Except Overflow) α}
    {f : α → ExceptT ScheduleError (Except Overflow) β} (hx : Settles x)
    (hf : ∀ a, x.run = .ok (.ok a) → Settles (f a)) : Settles (x >>= f) := by
  obtain ⟨r, hr⟩ := hx
  cases r with
  | error err => exact ⟨.error err, by rw [ExceptT.run_bind, hr]; rfl⟩
  | ok a =>
    obtain ⟨r', hr'⟩ := hf a hr
    exact ⟨r', by rw [ExceptT.run_bind, hr]; exact hr'⟩

theorem settles_lift {y : Except Overflow α} {a : α} (h : y = .ok a) :
    Settles (ExceptT.lift y : ExceptT ScheduleError (Except Overflow) α) :=
  ⟨.ok a, by rw [ExceptT.run_lift, h]; rfl⟩

end Settles

section Schedule

variable {p : Payment} {sub : Option Subscription} {terms : Terms} {g : Option Int}

theorem settles_paidThrough (h : terms.Fits p sub g) : Settles (paidThrough p sub terms) := by
  unfold paidThrough
  cases sub with
  | some s => exact settles_pure _
  | none =>
    cases hpaid : p.paidAt with
    | none => exact settles_throw _
    | some paid =>
      dsimp only
      split
      · exact settles_throw _
      · next hlen =>
        obtain ⟨t, ht⟩ := h.length paid rfl hpaid (by omega)
        exact settles_lift ht

theorem settles_nextChargeAt {now : Instant} (h : terms.Fits p sub g) :
    Settles (nextChargeAt p sub terms g now) := by
  unfold nextChargeAt
  refine settles_bind (settles_paidThrough h) fun through hthrough => ?_
  -- the checks after the lead time only compare instants
  dsimp only
  split
  · refine settles_bind (settles_pure _) fun due _ => ?_
    repeat' (first | exact settles_pure _ | exact settles_throw_bind _ _ | split)
  · next hours hlead =>
    split
    · exact settles_throw_bind _ _
    · next hsub =>
      obtain ⟨t, ht⟩ := h.lead through hours hthrough hlead
        (by simpa [Option.isSome_iff_ne_none] using hsub)
      refine settles_bind (settles_lift ht) fun due _ => ?_
      repeat' (first | exact settles_pure _ | exact settles_throw_bind _ _ | split)

/-- A catalog length of more days than a span holds stops the schedule of a payment without a
subscription row, where a schedule error was due. -/
theorem nextChargeAt_stops_beyond_span {now paid : Instant} {o : Overflow}
    (hpaid : p.paidAt = some paid) (hpos : 0 < terms.lengthDays)
    (hbig : spanOfDays terms.lengthDays = .error o) :
    (nextChargeAt p none terms g now).run = .error o := by
  have hthrough : (paidThrough p none terms).run = .error o := by
    unfold paidThrough
    simp only [hpaid]
    rw [if_neg (not_le.mpr hpos), ExceptT.run_lift, hbig]
    rfl
  unfold nextChargeAt
  rw [ExceptT.run_bind, hthrough]
  rfl

end Schedule

/-! ## The clock -/

namespace Engine

/-- The moves of the current instant that operations make stay on the time line: forward by the
lookahead, the retry delay and the reactivation delay, and back by the reactivation window. -/
structure ClockFits (e : Engine) : Prop where
  lookahead : ∃ t, shiftBy e.now e.policy.lookahead = .ok t
  retry : ∃ t, shiftBy e.now e.policy.retryDelay = .ok t
  reactivation : ∃ t, shiftBy e.now e.policy.reactivationDelay = .ok t
  window : ∃ t, shiftBack e.now e.policy.reactivationWindow = .ok t

/-- The current instant and the policy are as they were. -/
structure KeepsClock (e e' : Engine) : Prop where
  now : e'.now = e.now
  policy : e'.policy = e.policy

namespace KeepsClock

@[refl] theorem refl (e : Engine) : KeepsClock e e := ⟨rfl, rfl⟩

theorem trans {e₁ e₂ e₃ : Engine} (h₁ : KeepsClock e₁ e₂) (h₂ : KeepsClock e₂ e₃) :
    KeepsClock e₁ e₃ :=
  ⟨h₂.now.trans h₁.now, h₂.policy.trans h₁.policy⟩

instance : Std.Refl KeepsClock := ⟨refl⟩
instance : IsTrans Engine KeepsClock := ⟨fun _ _ _ => trans⟩

theorem of_routine {e e' : Engine} (h : Routine e e') : KeepsClock e e' := ⟨h.now, h.policy⟩

theorem updates : Run.Updates KeepsClock :=
  Run.Updates.of_update fun id _ e hch =>
    (Attempts.update_routine hch id e).mono fun _ _ => of_routine

theorem keepsAt_updateStatus (id : Ident) (u : Ledger.StatusRequest) (e : Engine) :
    KeepsAt KeepsClock (Ledger.updateStatus id u) e := by
  intro r e' h
  rcases Ledger.updateStatus_cases h with ⟨rfl, -, -⟩ | ⟨c, rfl, -⟩ | ⟨-, -, -, -, -, -, -, -, rfl⟩
  · exact refl _
  · exact ⟨rfl, rfl⟩
  · exact ⟨by simp, by simp⟩

theorem keepsAt_releaseClaim (id : Ident) (e : Engine) :
    KeepsAt KeepsClock (Attempts.releaseClaim id) e := by
  intro r e' h
  rcases Attempts.releaseClaim_cases h with rfl | ⟨-, -, -, -, -, -, rfl⟩
  · exact refl _
  · exact ⟨by simp, by simp⟩

theorem appendAudit (e : Engine) (a : AuditEntry) :
    KeepsClock e { e with store := e.store.appendAudit a } :=
  ⟨rfl, rfl⟩

theorem tally (e : Engine) (k : Counter) : KeepsClock e (e.tally k) := ⟨rfl, rfl⟩

theorem keepsAt_process (due : Charge) (e : Engine) : KeepsAt KeepsClock (Run.process due) e :=
  Run.keepsAt_process (fun e => (Attempts.claim_routine _ e).mono fun _ _ => of_routine)
    (Run.keepsAt_prepare updates appendAudit fun _ _ _ _ _ => ⟨rfl, rfl⟩)
    (fun c e => keepsAt_releaseClaim c.id e) (fun _ _ _ _ => ⟨rfl, rfl⟩)
    (Run.keepsAt_applyReply updates keepsAt_updateStatus tally) appendAudit tally e

end KeepsClock

theorem ClockFits.of_keeps {e e' : Engine} (h : e.ClockFits) (hk : KeepsClock e e') :
    e'.ClockFits := by
  obtain ⟨hl, hr, hd, hw⟩ := h
  rw [← hk.now, ← hk.policy] at hl hr hd hw
  exact ⟨hl, hr, hd, hw⟩

theorem ClockFits.hold {e : Engine} (h : e.ClockFits) (key : String) :
    ({ e with held := key :: e.held } : Engine).ClockFits :=
  h.of_keeps ⟨rfl, rfl⟩

end Engine

/-! ## Steps that finish -/

namespace Svc

variable {α β : Type} {m : Svc α} {f : α → Svc β} {e : Engine}

theorem finishes_bind_read {a : α} (hm : m.exec e = .ok (.ok a, e)) (hf : Finishes (f a) e) :
    Finishes (m >>= f) e :=
  let ⟨r, e', hx⟩ := hf
  ⟨r, e', by rw [exec_bind_ok hm, hx]⟩

theorem finishes_throw_bind (err : BillingError) : Finishes ((throw err : Svc α) >>= f) e :=
  finishes_of_exec (exec_bind_error (exec_throw err e))

theorem finishes_ite_throw {γ : Type} {c : Prop} [Decidable c] {err : BillingError} {k : Svc β}
    (hk : Finishes k e) : Finishes (if c then (throw err : Svc γ) >>= (fun _ => k) else k) e := by
  split
  · exact finishes_throw_bind err
  · exact hk

theorem finishes_time {r : Except Overflow α} {a : α} (h : r = .ok a) : Finishes (time r) e := by
  subst h
  exact finishes_pure a

theorem finishes_requireGateway (id : String) : Finishes (requireGateway id) e := by
  rw [Finishes, exec_requireGateway]
  split <;> exact ⟨_, _, rfl⟩

theorem exec_time_bind_error {o : Overflow} {r : Except Overflow α} (h : r = .error o) :
    (time r >>= f).exec e = .error o := by
  subst h
  rw [exec_bind, exec_time]

end Svc

namespace Attempts

open Engine

variable {e : Engine}

theorem finishes_updateLocked {id : Ident} {change : Charge → Svc Charge}
    (hch : ∀ c, Finishes (change c) e) : Finishes (updateLocked id change) e := by
  unfold updateLocked
  refine finishes_bind (finishes_get id e) fun c e₁ h₁ => ?_
  obtain ⟨rfl, -⟩ := reads_get id e _ _ h₁
  exact finishes_bind (hch c) fun _ e₂ _ =>
    finishes_bind_read (exec_store e₂) (finishes_bind_read (exec_now e₂)
      (finishes_bind (finishes_stored _ _) fun _ _ _ => finishes_pure _))

theorem finishes_update {id : Ident} {change : Charge → Svc Charge}
    (hch : ∀ c, Finishes (change c) { e with held := chargeKey id :: e.held }) :
    Finishes (update id change) e := by
  unfold update
  refine finishes_bind (finishes_withLock _ fun _ => finishes_updateLocked hch) fun oc _ _ => ?_
  obtain ⟨old, c⟩ := oc
  dsimp only
  split
  · exact finishes_bind (finishes_of_exec (exec_emit _ _ _)) fun _ _ _ => finishes_pure _
  · exact finishes_pure _

theorem finishes_transition (id : Ident) (t : ChargeState) (actor : Actor) (u : ChargeUpdate)
    (e : Engine) : Finishes (transition id t actor u) e :=
  finishes_update fun _ => by
    split
    · exact finishes_pure _
    · exact finishes_throw _

theorem finishes_releaseClaim (id : Ident) (e : Engine) : Finishes (releaseClaim id) e :=
  finishes_update fun _ => finishes_pure _

theorem finishes_linkPayment (id p : Ident) (e : Engine) : Finishes (linkPayment id p) e :=
  finishes_bind (finishes_update fun _ => finishes_pure _) fun _ _ _ => finishes_pure _

theorem finishes_claim (hfit : e.ClockFits) (id : Ident) : Finishes (claim id) e := by
  unfold claim
  refine finishes_withLock _ fun _ => finishes_bind (finishes_get id _) fun c e₁ h₁ => ?_
  obtain ⟨rfl, -⟩ := reads_get id _ _ _ h₁
  obtain ⟨due, hdue⟩ := (hfit.hold (chargeKey id)).lookahead
  refine finishes_bind_read (exec_now _) (finishes_bind_read (exec_policy _) ?_)
  refine finishes_bind (finishes_time hdue) fun _ _ _ => ?_
  split
  · exact finishes_pure _
  · exact finishes_bind_read (exec_store _) (finishes_bind_read (exec_now _)
      (finishes_map _ (finishes_stored _ _)))

theorem finishes_rearmFailed (hfit : e.ClockFits) (id : Ident) : Finishes (rearmFailed id) e := by
  unfold rearmFailed
  obtain ⟨due, hdue⟩ := (hfit.hold (chargeKey id)).retry
  refine finishes_bind_read (exec_policy e) (finishes_update fun c => ?_)
  refine finishes_ite_throw ?_
  split
  · exact finishes_pure _
  · exact finishes_bind_read (exec_now _) (finishes_bind (finishes_time hdue) fun _ _ _ =>
      finishes_pure _)

theorem finishes_insertUnlessExists (d : ChargeDraft) (e : Engine) :
    Finishes (insertUnlessExists d) e := by
  unfold insertUnlessExists
  refine finishes_bind_read (exec_store e) ?_
  split
  · exact finishes_pure _
  · exact finishes_bind_read (exec_store e) (finishes_bind_read (exec_now e) (finishes_stored _ _))

theorem finishes_createAttemptFrom (d : ChargeDraft) (e : Engine) :
    Finishes (createAttemptFrom d) e :=
  finishes_withLock _ fun _ => finishes_insertUnlessExists d _

theorem finishes_registerMethod (user : Ident) (gateway token : String) (e : Engine) :
    Finishes (registerMethod user gateway token) e := by
  unfold registerMethod
  refine finishes_bind_read (exec_store e) (finishes_bind_read (exec_now e) ?_)
  exact finishes_bind (finishes_of_exec (exec_setStore _ _)) fun _ _ _ => finishes_pure _

theorem finishes_updateMethodExpiry (method : Ident) (d : Date) (e : Engine) :
    Finishes (updateMethodExpiry method d) e := by
  unfold updateMethodExpiry
  refine finishes_bind_read (exec_store e) ?_
  split
  · exact finishes_of_exec (exec_setStore _ _)
  · exact finishes_throw _

theorem finishes_scheduleNext {charged : Charge} {sub : Option Subscription} {terms : Terms}
    (hfits : ∀ pid p, charged.payment = some pid → e.store.payment? pid = some p →
      terms.Fits p sub e.policy.chargeBeforeHours) :
    Finishes (scheduleNext charged sub terms) e := by
  unfold scheduleNext
  refine finishes_ite_throw ?_
  split
  · next pid hpid =>
    refine finishes_bind (finishes_payment pid e) fun p e₁ h₁ => ?_
    have hp : e₁ = e ∧ e.store.payment? pid = some p := by
      rw [exec_payment] at h₁
      split at h₁
      · next q hq =>
        cases h₁
        exact ⟨rfl, hq⟩
      · cases h₁
    obtain ⟨rfl, hp⟩ := hp
    refine finishes_bind_read (exec_policy _) (finishes_bind_read (exec_now _) ?_)
    -- the schedule settles, so the match never reaches its stop
    have hsettles : Settles (nextChargeAt p sub terms e₁.policy.chargeBeforeHours e₁.now) :=
      settles_nextChargeAt (hfits pid p hpid hp)
    obtain ⟨r, hr⟩ := hsettles
    dsimp only
    rw [hr]
    cases r with
    | ok t => exact finishes_bind_read (exec_pure _ _) (finishes_createAttemptFrom _ _)
    | error err => exact finishes_throw_bind _
  · exact finishes_throw _

theorem finishes_canBeStopped (c : Charge) (e : Engine) : Finishes (canBeStopped c) e := by
  unfold canBeStopped
  refine finishes_bind (finishes_payment _ e) fun parent e₁ _ => ?_
  refine finishes_bind_read (exec_gateways e₁) ?_
  simp only
  split
  · split <;> exact finishes_pure _
  · exact finishes_pure _

theorem finishes_canBeStoppedByUser (c : Charge) (e : Engine) :
    Finishes (canBeStoppedByUser c) e := by
  unfold canBeStoppedByUser
  refine finishes_bind (finishes_canBeStopped c e) fun b e₁ _ => ?_
  split
  · exact finishes_pure _
  · exact finishes_bind (finishes_payment _ e₁) fun _ e₂ _ =>
      finishes_bind_read (exec_gateways e₂) (finishes_pure _)

theorem finishes_stopByUser (id : Ident) (e : Engine) : Finishes (stopByUser id) e := by
  unfold stopByUser
  refine finishes_bind (finishes_get id e) fun c e₁ _ => ?_
  refine finishes_bind (finishes_canBeStoppedByUser c e₁) fun b e₂ _ => ?_
  exact finishes_ite_throw (finishes_transition _ _ _ _ e₂)

theorem finishes_stopByAdmin (id : Ident) (reason : String) (e : Engine) :
    Finishes (stopByAdmin id reason) e := by
  unfold stopByAdmin
  refine finishes_bind (finishes_get id e) fun c e₁ _ => ?_
  refine finishes_bind (finishes_canBeStopped c e₁) fun b e₂ _ => ?_
  exact finishes_ite_throw (finishes_transition _ _ _ _ e₂)

theorem finishes_reactivateLocked (hfit : e.ClockFits) (id : Ident) :
    Finishes (reactivateLocked id) e := by
  unfold reactivateLocked
  obtain ⟨start, hstart⟩ := hfit.window
  obtain ⟨due, hdue⟩ := hfit.reactivation
  refine finishes_bind_read (exec_now e) (finishes_bind_read (exec_policy e) ?_)
  refine finishes_bind (finishes_get id e) fun stopped e₁ h₁ => ?_
  obtain ⟨rfl, -⟩ := reads_get id e _ _ h₁
  simp only
  refine finishes_ite_throw (finishes_ite_throw ?_)
  refine finishes_bind (finishes_time hstart) fun windowStart e₂ h₂ => ?_
  obtain ⟨rfl, -⟩ := reads_time _ e₁ _ _ h₂
  refine finishes_ite_throw ?_
  refine finishes_bind_read (exec_store _) ?_
  -- with or without a later attempt of the parent, the rest makes the fresh attempt
  have hrest : Finishes (do
      let due ← time (shiftBy e₂.now e₂.policy.reactivationDelay)
      let fresh ← stored ((← store).createCharge
        { method := stopped.method, parent := stopped.parent, chargeAt := due,
          retries := e₂.policy.defaultRetries, customAmount := stopped.customAmount,
          renewalItem := stopped.renewalItem, note := some ("Reactivated from " ++ id.text) } e₂.now)
      let _ ← stored ((← store).saveCharge (stopped.pushNote ("Reactivated as " ++ fresh.id.text))
        e₂.now)
      pure fresh : Svc Charge) e₂ :=
    finishes_bind (finishes_time hdue) fun _ e₃ _ =>
      finishes_bind_read (exec_store e₃) (finishes_bind (finishes_stored _ _) fun _ e₄ _ =>
        finishes_bind_read (exec_store e₄) (finishes_bind (finishes_stored _ _) fun _ _ _ =>
          finishes_pure _))
  split
  · exact finishes_ite_throw hrest
  · exact hrest

theorem finishes_reactivateAfterSystemStop (hfit : e.ClockFits) (id : Ident) :
    Finishes (reactivateAfterSystemStop id) e := by
  unfold reactivateAfterSystemStop
  refine finishes_bind (finishes_get id e) fun c e₁ h₁ => ?_
  obtain ⟨rfl, -⟩ := reads_get id e _ _ h₁
  refine finishes_bind (finishes_canBeStopped c e₁) fun b e₂ h₂ => ?_
  obtain ⟨rfl, -⟩ := reads_canBeStopped c e₁ _ _ h₂
  exact finishes_ite_throw (finishes_withLock _ fun _ =>
    finishes_reactivateLocked (hfit.hold _) id)

theorem finishes_reactivateByUser (id : Ident) (e : Engine) :
    Finishes (reactivateByUser id) e := by
  unfold reactivateByUser
  refine finishes_bind (finishes_get id e) fun c e₁ _ => ?_
  refine finishes_bind (finishes_canBeStoppedByUser c e₁) fun b e₂ _ => ?_
  refine finishes_ite_throw (finishes_update fun c => ?_)
  refine finishes_ite_throw ?_
  refine finishes_bind_read (exec_now _) ?_
  exact finishes_ite_throw (finishes_pure _)

theorem finishes_chargeable (hfit : e.ClockFits) (ids : Option (List Ident)) :
    Finishes (chargeable ids) e := by
  obtain ⟨due, hdue⟩ := hfit.lookahead
  exact finishes_bind_read (exec_now e) (finishes_bind_read (exec_policy e)
    (finishes_bind (finishes_time hdue) fun _ e₁ _ =>
      finishes_bind_read (exec_store e₁) (finishes_pure _)))

/-- With the lookahead off the time line, the queue of a run stops. -/
theorem chargeable_stops_off_the_time_line {o : Overflow}
    (h : shiftBy e.now e.policy.lookahead = .error o) (ids : Option (List Ident)) :
    (chargeable ids).exec e = .error o := by
  unfold chargeable
  rw [exec_bind_ok (exec_now e), exec_bind_ok (exec_policy e)]
  exact exec_time_bind_error h

end Attempts

namespace RegistryOp

open Engine Attempts

/-- The schedule of every attempt an operation would schedule next is in range. -/
def SchedulesFit (op : RegistryOp) (e : Engine) : Prop :=
  ∀ id sub terms c pid p, op = .scheduleNext id sub terms → e.store.charge? id = some c →
    c.payment = some pid → e.store.payment? pid = some p →
    terms.Fits p sub e.policy.chargeBeforeHours

theorem finishes_act {op : RegistryOp} {e : Engine} (hfit : e.ClockFits)
    (hsched : op.SchedulesFit e) : Finishes op.act e := by
  cases op with
  | registerMethod user gateway token =>
    exact finishes_bind (finishes_registerMethod _ _ _ e) fun _ _ _ => finishes_pure _
  | updateMethodExpiry method d => exact finishes_updateMethodExpiry _ _ e
  | createAttempt method parent chargeAt customAmount retries =>
    exact finishes_bind (finishes_bind_read (exec_policy e) (finishes_createAttemptFrom _ e))
      fun _ _ _ => finishes_pure _
  | createAttemptFrom d =>
    exact finishes_bind (finishes_createAttemptFrom _ e) fun _ _ _ => finishes_pure _
  | scheduleNext id sub terms =>
    refine finishes_bind (finishes_get id e) fun c e₁ h₁ => ?_
    have hc : e₁ = e ∧ e.store.charge? id = some c := by
      rw [Attempts.exec_get] at h₁
      split at h₁
      · next c₀ hc₀ =>
        cases h₁
        exact ⟨rfl, hc₀⟩
      · cases h₁
    obtain ⟨rfl, hc⟩ := hc
    exact finishes_bind (finishes_scheduleNext fun pid p hpid hp =>
      hsched id sub terms c pid p rfl hc hpid hp) fun _ _ _ => finishes_pure _
  | transition id t actor u =>
    exact finishes_bind (finishes_transition _ _ _ _ e) fun _ _ _ => finishes_pure _
  | claim id => exact finishes_bind (finishes_claim hfit id) fun _ _ _ => finishes_pure _
  | linkPayment id payment =>
    exact finishes_bind (finishes_linkPayment _ _ e) fun _ _ _ => finishes_pure _
  | rearmFailed id => exact finishes_bind (finishes_rearmFailed hfit id) fun _ _ _ => finishes_pure _
  | stopByUser id => exact finishes_bind (finishes_stopByUser _ e) fun _ _ _ => finishes_pure _
  | stopByAdmin id reason =>
    exact finishes_bind (finishes_stopByAdmin _ _ e) fun _ _ _ => finishes_pure _
  | reactivateAfterSystemStop id =>
    exact finishes_bind (finishes_reactivateAfterSystemStop hfit id) fun _ _ _ => finishes_pure _
  | reactivateByUser id =>
    exact finishes_bind (finishes_reactivateByUser _ e) fun _ _ _ => finishes_pure _

end RegistryOp

namespace Run

open Engine Attempts

variable {e : Engine}

theorem finishes_prepare (c : Charge) (e : Engine) : Finishes (prepare c) e := by
  unfold prepare
  obtain ⟨x, hx, -⟩ := fastChargeConflict_exec c e
  refine finishes_bind_read hx ?_
  split
  · exact finishes_bind (finishes_transition _ _ _ _ e) fun _ _ _ => finishes_pure _
  refine finishes_bind ?_ fun pid e₁ _ => ?_
  · -- the payment: the linked one, or one opened from the parent
    unfold paymentFor
    split
    · exact finishes_pure _
    unfold openPayment parentPayment createFor
    refine finishes_bind (finishes_bind_read (exec_store e) ?_) fun parent e₁ _ => ?_
    · split
      · exact finishes_pure _
      · exact finishes_throw _
    refine finishes_bind (finishes_bind_read (exec_store e₁) (finishes_bind_read (exec_now e₁)
      (finishes_bind (finishes_of_exec (exec_setStore _ _)) fun _ _ _ => finishes_pure _)))
      fun p e₂ _ => finishes_linkPayment _ _ e₂
  · unfold completeOrCall chargedPayment
    refine finishes_bind (finishes_bind_read (exec_store e₁) ?_) fun p e₂ _ => ?_
    · split
      · exact finishes_pure _
      · exact finishes_throw _
    split
    · exact finishes_bind (finishes_bind (finishes_transition _ _ _ _ e₂) fun _ e₃ _ =>
        finishes_of_exec (exec_appendLog _ _ _ e₃)) fun _ _ _ => finishes_pure _
    · exact finishes_bind (finishes_requireGateway _) fun _ _ _ => finishes_pure _

theorem finishes_applyReply (hfit : e.ClockFits) (c : Charge) (p : Payment) (g : Gateway)
    (reply : ChargeReply) : Finishes (applyReply c p g reply) e := by
  cases reply with
  | settled r =>
    exact finishes_bind Ledger.finishes_updateStatus fun _ e₁ _ =>
      finishes_bind (finishes_transition _ _ _ _ e₁) fun _ _ _ => finishes_pure _
  | pending r => exact finishes_bind (finishes_transition _ _ _ _ e) fun _ _ _ => finishes_pure _
  | failed f =>
    obtain ⟨kind, r⟩ := f
    cases kind with
    | retryable =>
      refine finishes_bind Ledger.finishes_updateStatus fun _ e₁ h₁ => ?_
      refine finishes_bind (finishes_transition _ _ _ _ e₁) fun _ e₂ h₂ => ?_
      have hclock : KeepsClock e e₂ := (KeepsClock.keepsAt_updateStatus _ _ e _ _ h₁).trans
        (KeepsClock.of_routine (transition_routine _ _ _ _ e₁ _ _ h₂))
      exact finishes_bind (finishes_rearmFailed (hfit.of_keeps hclock) _) fun _ _ _ =>
        finishes_pure _
    | terminal =>
      exact finishes_bind Ledger.finishes_updateStatus fun _ e₁ _ =>
        finishes_bind (finishes_transition _ _ _ _ e₁) fun _ _ _ => finishes_pure _
    | hard =>
      exact finishes_bind (finishes_of_exec (exec_count _ _)) fun _ e₁ _ =>
        finishes_bind (finishes_transition _ _ _ _ e₁) fun _ _ _ => finishes_pure _

theorem finishes_process (hfit : e.ClockFits) (due : Charge) : Finishes (process due) e := by
  unfold process
  refine finishes_bind (finishes_claim hfit _) fun oc e₁ h₁ => ?_
  have hfit₁ := hfit.of_keeps (KeepsClock.of_routine (claim_routine _ e _ _ h₁))
  cases oc with
  | none => exact finishes_bind (finishes_of_exec (exec_count _ _)) fun _ _ _ => finishes_pure _
  | some c =>
    have hprep : KeepsAt KeepsClock (tryCatch (prepare c) fun err => do
        let _ ← tryCatch (releaseClaim c.id) (fun _ => pure c)
        throw err) e₁ :=
      keepsAt_tryCatch (Run.keepsAt_prepare KeepsClock.updates KeepsClock.appendAudit
        (fun _ _ _ _ _ => ⟨rfl, rfl⟩) c e₁) fun _ e₂ _ =>
        keepsAt_bind (keepsAt_tryCatch (KeepsClock.keepsAt_releaseClaim _ e₂) fun _ _ _ =>
          keepsAt_pure _) fun _ _ _ => keepsAt_throw _
    refine finishes_bind (finishes_tryCatch (finishes_prepare c e₁) fun _ e₂ _ =>
      finishes_bind (finishes_tryCatch (finishes_releaseClaim _ e₂) fun _ _ _ => finishes_pure _)
        fun _ _ _ => finishes_throw _) fun prepared e₂ h₂ => ?_
    have hfit₂ := hfit₁.of_keeps (hprep _ _ h₂)
    cases prepared with
    | done o => exact finishes_bind (finishes_of_exec (exec_count _ _)) fun _ _ _ => finishes_pure _
    | call p g =>
      refine finishes_bind (finishes_of_exec (exec_callGateway g p c e₂)) fun reply e₃ h₃ => ?_
      rw [exec_callGateway] at h₃
      cases h₃
      have hfit₃ : (e₂.afterCharge g p c).ClockFits := hfit₂.of_keeps ⟨rfl, rfl⟩
      refine finishes_bind (finishes_applyReply hfit₃ c p g _) fun x e₄ _ => ?_
      obtain ⟨o, r⟩ := x
      exact finishes_bind (finishes_of_exec (exec_appendLog _ _ _ e₄)) fun _ _ _ =>
        finishes_bind (finishes_of_exec (exec_count _ _)) fun _ _ _ => finishes_pure _

theorem finishes_processAll : ∀ (l : List Charge) (s : Summary) (e : Engine), e.ClockFits →
    Finishes (processAll l s) e
  | [], s, e, _ => finishes_pure s
  | c :: rest, s, e, hfit => by
    unfold processAll
    have hturn : KeepsAt KeepsClock
        (tryCatch (.ok <$> process c) (fun err => pure (.error err)) : Svc (Except BillingError Outcome))
        e :=
      keepsAt_tryCatch (keepsAt_map _ (KeepsClock.keepsAt_process c e)) fun _ _ _ => keepsAt_pure _
    refine finishes_bind (finishes_tryCatch (finishes_map _ (finishes_process hfit c))
      fun _ _ _ => finishes_pure _) fun x e₁ h₁ => ?_
    have hfit₁ := hfit.of_keeps (hturn _ _ h₁)
    have hrest := finishes_processAll rest (s.record c.id x)
    simp only
    cases x with
    | ok o => exact finishes_bind_read (exec_pure _ _) (hrest e₁ hfit₁)
    | error err =>
      by_cases hsys : err.isSystemic = true
      · -- a systemic error ends the run
        simp only [hsys, if_true]
        exact finishes_bind (finishes_of_exec (exec_count _ _)) fun _ _ _ => finishes_throw_bind _
      · simp only [hsys, Bool.false_eq_true, if_false]
        refine finishes_bind (finishes_of_exec (exec_count _ _)) fun _ e₂ h₂ => ?_
        rw [exec_count] at h₂
        cases h₂
        exact hrest _ (hfit₁.of_keeps ⟨rfl, rfl⟩)

theorem finishes_run (hfit : e.ClockFits) (ids : Option (List Ident)) : Finishes (run ids) e :=
  finishes_bind (finishes_chargeable hfit ids) fun l e₁ h₁ => by
    obtain ⟨rfl, -⟩ := reads_chargeable ids e _ _ h₁
    exact finishes_processAll l {} e₁ hfit

theorem finishes_resolvePending (hfit : e.ClockFits) (id : Ident) (succeeded : Bool)
    (r : GatewayResponse) : Finishes (resolvePending id succeeded r) e := by
  unfold resolvePending
  refine finishes_bind (finishes_get id e) fun c e₁ h₁ => ?_
  obtain ⟨rfl, -⟩ := reads_get id e _ _ h₁
  simp only
  split
  · exact finishes_throw_bind _
  split
  · next pid hpid =>
    refine finishes_bind_read (exec_store _) ?_
    split
    · next p hp =>
      refine finishes_bind (finishes_requireGateway _) fun g e₂ h₂ => ?_
      have he₂ : e₂ = e₁ := by
        rw [exec_requireGateway] at h₂
        split at h₂ <;> cases h₂
        rfl
      subst he₂
      cases succeeded with
      | true =>
        exact finishes_bind Ledger.finishes_updateStatus fun _ e₃ _ =>
          finishes_bind (finishes_transition _ _ _ _ e₃) fun _ e₄ _ =>
            finishes_bind (finishes_of_exec (exec_appendLog _ _ _ e₄)) fun _ _ _ =>
              finishes_bind (finishes_of_exec (exec_count _ _)) fun _ _ _ => finishes_pure _
      | false =>
        refine finishes_bind Ledger.finishes_updateStatus fun _ e₃ h₃ => ?_
        refine finishes_bind (finishes_transition _ _ _ _ e₃) fun _ e₄ h₄ => ?_
        have hclock : KeepsClock e₂ e₄ := (KeepsClock.keepsAt_updateStatus _ _ e₂ _ _ h₃).trans
          (KeepsClock.of_routine (transition_routine _ _ _ _ e₃ _ _ h₄))
        exact finishes_bind (finishes_rearmFailed (hfit.of_keeps hclock) id) fun _ e₅ _ =>
          finishes_bind (finishes_of_exec (exec_appendLog _ _ _ e₅)) fun _ _ _ =>
            finishes_bind (finishes_of_exec (exec_count _ _)) fun _ _ _ => finishes_pure _
    · exact finishes_throw _
  · exact finishes_throw _

end Run

namespace Expiry

theorem finishes_writeChanged (answers : List (String × Date)) :
    ∀ (ms : List Method) (n : Nat) (e : Engine), Finishes (writeChanged answers ms n) e
  | [], n, e => finishes_pure n
  | m :: rest, n, e => by
    unfold writeChanged
    split
    · exact finishes_writeChanged answers rest n e
    · split
      · exact finishes_writeChanged answers rest n e
      · refine finishes_bind_read (exec_store e) ?_
        simp only
        split
        · exact finishes_bind (finishes_of_exec (exec_setStore _ _)) fun _ e₁ _ =>
            finishes_writeChanged answers rest (n + 1) e₁
        · exact finishes_throw_bind _

theorem finishes_refresh (gateway : String) (e : Engine) : Finishes (refresh gateway) e := by
  unfold refresh
  refine finishes_bind (finishes_requireGateway _) fun g e₁ _ => ?_
  split
  · exact finishes_pure _
  refine finishes_bind_read (exec_store e₁) ?_
  simp only
  split
  · exact finishes_pure _
  split
  · exact finishes_bind (finishes_of_exec (exec_count _ _)) fun _ _ _ => finishes_throw _
  · exact finishes_writeChanged _ _ _ e₁

end Expiry

/-! ## Every operation -/

/-- What an operation needs to stay on the time line: the moves of the current instant, and for
the scheduling of a next attempt, its schedule. -/
structure Engine.Fits (e : Engine) (op : Op) : Prop where
  clock : e.ClockFits
  schedule : ∀ rop, op = .registry rop → rop.SchedulesFit e

/-- Every operation finishes, with its answer or a billing error, from an engine where the moves
of the current instant stay on the time line, when the schedule of an attempt it schedules next
is in range: time arithmetic stops an operation at those moves only. -/
theorem operations_finish_on_the_time_line {e : Engine} {op : Op} (h : e.Fits op) :
    Finishes op.act e := by
  have hfit := h.clock
  cases op with
  | issueIdent => exact finishes_of_exec (exec_modify _ _)
  | setClock t => exact finishes_of_exec (exec_modify _ _)
  | setGateway g => exact finishes_of_exec (exec_modify _ _)
  | seedPayment p => exact finishes_bind_read (exec_store e) (finishes_of_exec (exec_setStore _ _))
  | createPayment d =>
    exact finishes_bind_read (exec_store e) (finishes_bind_read (exec_now e)
      (finishes_of_exec (exec_setStore _ _)))
  | putCharge c => exact finishes_bind_read (exec_store e) (finishes_of_exec (exec_setStore _ _))
  | registry rop => exact RegistryOp.finishes_act hfit (h.schedule rop rfl)
  | releaseClaim id =>
    exact finishes_bind (Attempts.finishes_releaseClaim id e) fun _ _ _ => finishes_pure _
  | updateStatus id u => exact finishes_bind Ledger.finishes_updateStatus fun _ _ _ => finishes_pure _
  | run ids => exact finishes_bind (Run.finishes_run hfit ids) fun _ _ _ => finishes_pure _
  | resolvePending id succeeded resp =>
    exact finishes_bind (Run.finishes_resolvePending hfit id succeeded resp) fun _ _ _ =>
      finishes_pure _
  | refreshExpiry g =>
    exact finishes_bind (Expiry.finishes_refresh g e) fun _ _ _ => finishes_pure _

/-- Scheduling the next charge of a charged attempt, late in the time line, for a payment paid the
day before on a thirty-day catalog item: the clock's moves and the schedule are on the time line,
and the operation finishes. -/
theorem scheduling_finishes_late_in_the_time_line :
    let now : Instant := ⟨6000000000000, 0⟩
    let paid : Instant := ⟨6000000000000 - 86400, 0⟩
    let q : Payment :=
      { id := Ident.ofSerial 1, user := ⟨0⟩, gateway := "test", status := .paid,
        amount := ⟨1999, 2, false⟩, paidAt := some paid, subscription := none, catalogItem := none,
        address := none, isRecurrent := true, parent := none, note := none, errorMessage := none,
        created := paid, updated := paid }
    let m₀ : Method :=
      { id := Ident.ofSerial 2, user := ⟨0⟩, gateway := "test", token := "tok", expiresOn := none,
        created := paid }
    let c₀ : Charge :=
      { id := Ident.ofSerial 3, method := m₀.id, parent := q.id, payment := some q.id,
        chargeAt := paid, retries := 2, customAmount := none, renewalItem := none,
        state := .charged, status := some "CHARGE_OK", note := none, token := "tok", created := paid,
        updated := paid }
    let op : Op := .registry (.scheduleNext c₀.id none { lengthDays := 30 })
    let e₀ : Engine :=
      { now, store := { payments := [q], methods := [m₀], rows := [⟨c₀, 1⟩], seq := 1, serial := 3 } }
    e₀.Fits op ∧ Finishes op.act e₀ := by
  intro now paid q m₀ c₀ op e₀
  have hclock : e₀.ClockFits :=
    ⟨⟨⟨6000000000900, 0⟩, by decide +kernel⟩, ⟨⟨6000000086400, 0⟩, by decide +kernel⟩,
      ⟨⟨6000000086400, 0⟩, by decide +kernel⟩, ⟨⟨6000000000000 - 1209600, 0⟩, by decide +kernel⟩⟩
  -- the schedule reads the stored attempt and its payment, paid with no lead time
  have hsched : ∀ rop, op = .registry rop → rop.SchedulesFit e₀ := by
    intro rop hrop id sub terms c pid p hop hc hpid hp
    obtain rfl := Op.registry.inj hrop
    obtain ⟨rfl, rfl, rfl⟩ := RegistryOp.scheduleNext.inj hop
    obtain rfl : c = c₀ := Option.some.inj hc.symm
    obtain rfl : pid = q.id := Option.some.inj hpid.symm
    obtain rfl : p = q := Option.some.inj hp.symm
    refine ⟨fun t _ ht _ => ?_, fun _ _ _ hlead _ => by cases hlead⟩
    obtain rfl : t = paid := Option.some.inj ht.symm
    exact ⟨⟨6000000000000 - 86400 + 30 * 86400, 0⟩, by decide +kernel⟩
  have h : e₀.Fits op := ⟨hclock, hsched⟩
  exact ⟨h, operations_finish_on_the_time_line h⟩

end Rebill
