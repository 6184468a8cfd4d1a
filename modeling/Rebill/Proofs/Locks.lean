import Rebill.Proofs.Callbacks

/-!
# No operation waits for its own lock

Every lock of the billing core is taken by `withLock`, in five places: making an attempt (the
parent's key), changing an attempt and claiming it (the attempt's key), reactivating an attempt
(the parent's key) and the ledger's change of a payment (the payment's key). `withLock` gives its
key back whatever the body ends with, and none of the five bodies takes a lock: they read and
write the store, count, and fail with errors of their own.

Two properties of an operation say this. `Svc.LockFree m`: `m` leaves the keys held as they were
and never fails on a lock. `Svc.LockSafe m`: `m` leaves the keys held as they were and fails on a
lock only when the key was already held when it started, by someone else. A body that is
lock-free makes its lock safe (`Svc.lockSafe_withLock`), and sequences, handlers and branches of
safe steps are safe. Every operation of the service is safe (`Op.lockSafe_act`), so from an engine
where no other party holds a lock, no operation fails on a lock, no attempt of a run is reported
as waiting for one, and no key is left held (`operations_never_wait_for_a_lock`).
-/

namespace Rebill

/-- The key a lock timeout waited for; no other error waits for a lock. -/
def BillingError.waitedFor : BillingError → Option String
  | .lockTimeout key _ => some key
  | _ => none

namespace Svc

variable {α β : Type} {m : Svc α} {f : α → Svc β}

/-- `m` takes no lock: it leaves the keys held as they were, and no run of it fails on a lock. -/
def LockFree (m : Svc α) : Prop :=
  ∀ e r e', m.exec e = .ok (r, e') → e'.held = e.held ∧ ∀ err, r = .error err → err.waitedFor = none

/-- `m` gives back every lock it takes, and fails on a lock only when its key was held when it
started. -/
def LockSafe (m : Svc α) : Prop :=
  ∀ e r e', m.exec e = .ok (r, e') → e'.held = e.held ∧
    ∀ err, r = .error err → ∀ key ∈ err.waitedFor, key ∈ e.held

theorem LockFree.lockSafe (h : LockFree m) : LockSafe m := by
  intro e r e' hx
  obtain ⟨hheld, herr⟩ := h e r e' hx
  refine ⟨hheld, fun err hr key hkey => ?_⟩
  rw [herr err hr] at hkey
  cases hkey

/-! ## Steps that take no lock -/

theorem lockFree_of_exec {g : Engine → α × Engine} (hx : ∀ e, m.exec e = .ok (.ok (g e).1, (g e).2))
    (hheld : ∀ e, (g e).2.held = e.held) : LockFree m := by
  intro e r e' h
  rw [hx] at h
  cases h
  exact ⟨hheld e, fun _ hr => by cases hr⟩

theorem lockFree_pure (a : α) : LockFree (pure a) :=
  lockFree_of_exec (g := fun e => (a, e)) (fun _ => rfl) fun _ => rfl

theorem lockFree_throw {err : BillingError} (h : err.waitedFor = none) :
    LockFree (throw err : Svc α) := by
  intro e r e' hx
  cases hx
  exact ⟨rfl, fun _ hr => by cases hr; exact h⟩

theorem LockFree.bind (hm : LockFree m) (hf : ∀ a, LockFree (f a)) : LockFree (m >>= f) := by
  intro e r e' hx
  rcases exec_bind_eq_ok hx with ⟨err, hm', rfl⟩ | ⟨a, e₁, hm', hf'⟩
  · obtain ⟨hheld, herr⟩ := hm e _ e' hm'
    exact ⟨hheld, fun err' hr => herr err' (by cases hr; rfl)⟩
  · obtain ⟨h₁, -⟩ := hm e _ e₁ hm'
    obtain ⟨h₂, herr⟩ := hf a e₁ r e' hf'
    exact ⟨h₂.trans h₁, herr⟩

theorem LockFree.map (g : α → β) (hm : LockFree m) : LockFree (g <$> m) := by
  rw [← bind_pure_comp]
  exact hm.bind fun a => lockFree_pure (g a)

theorem lockFree_now : LockFree now := lockFree_of_exec (g := fun e => (e.now, e)) exec_now fun _ => rfl

theorem lockFree_policy : LockFree policy :=
  lockFree_of_exec (g := fun e => (e.policy, e)) exec_policy fun _ => rfl

theorem lockFree_gateways : LockFree gateways :=
  lockFree_of_exec (g := fun e => (e.gateways, e)) exec_gateways fun _ => rfl

theorem lockFree_store : LockFree store :=
  lockFree_of_exec (g := fun e => (e.store, e)) exec_store fun _ => rfl

theorem lockFree_shuffle : LockFree shuffle :=
  lockFree_of_exec (g := fun e => (e.shuffle, e)) exec_shuffle fun _ => rfl

theorem lockFree_setStore (s : Store) : LockFree (setStore s) :=
  lockFree_of_exec (g := fun e => ((), { e with store := s })) (exec_setStore · s) fun _ => rfl

theorem lockFree_count (k : Counter) : LockFree (count k) :=
  lockFree_of_exec (g := fun e => ((), e.tally k)) (exec_count · k) fun _ => rfl

theorem lockFree_emit (ev : BillingEvent) (op : String) : LockFree (emit ev op) :=
  lockFree_of_exec (g := fun e => ((), e.announce ev op)) (exec_emit · ev op) fun e => by simp

theorem lockFree_publish (msg : StatusMessage) (op : String) : LockFree (publish msg op) :=
  lockFree_of_exec (g := fun e => ((), e.post msg op)) (exec_publish · msg op) fun e => by simp

theorem lockFree_stored (r : Except Fault (α × Store)) : LockFree (stored r) := by
  intro e r' e' hx
  rw [exec_stored] at hx
  rcases r with fault | ⟨a, s⟩ <;> cases hx
  · exact ⟨rfl, fun _ hr => by cases hr; rfl⟩
  · exact ⟨rfl, fun _ hr => by cases hr⟩

theorem lockFree_time (r : Except Overflow α) : LockFree (time r) := by
  intro e r' e' hx
  rw [exec_time] at hx
  rcases r with o | a <;> cases hx
  exact ⟨rfl, fun _ hr => by cases hr⟩

theorem lockFree_requireGateway (id : String) : LockFree (requireGateway id) := by
  intro e r e' hx
  rw [exec_requireGateway] at hx
  split at hx <;> cases hx
  · exact ⟨rfl, fun _ hr => by cases hr⟩
  · exact ⟨rfl, fun _ hr => by cases hr; rfl⟩

/-! ## Steps that take locks -/

theorem LockSafe.bind (hm : LockSafe m) (hf : ∀ a, LockSafe (f a)) : LockSafe (m >>= f) := by
  intro e r e' hx
  rcases exec_bind_eq_ok hx with ⟨err, hm', rfl⟩ | ⟨a, e₁, hm', hf'⟩
  · obtain ⟨hheld, herr⟩ := hm e _ e' hm'
    exact ⟨hheld, fun err' hr => herr err' (by cases hr; rfl)⟩
  · obtain ⟨h₁, -⟩ := hm e _ e₁ hm'
    obtain ⟨h₂, herr⟩ := hf a e₁ r e' hf'
    exact ⟨h₂.trans h₁, fun err hr key hkey => h₁ ▸ herr err hr key hkey⟩

theorem LockSafe.map (g : α → β) (hm : LockSafe m) : LockSafe (g <$> m) := by
  rw [← bind_pure_comp]
  exact hm.bind fun a => (lockFree_pure (g a)).lockSafe

theorem LockSafe.bind_pure (hm : LockSafe m) (g : α → β) : LockSafe (m >>= fun a => pure (g a)) :=
  hm.bind fun a => (lockFree_pure (g a)).lockSafe

theorem LockSafe.handle {h : BillingError → Svc α} (hm : LockSafe m)
    (hh : ∀ err, LockSafe (h err)) : LockSafe (tryCatch m h) := by
  intro e r e' hx
  rcases exec_tryCatch_eq_ok hx with ⟨a, hm', rfl⟩ | ⟨err₀, e₁, hm', hh'⟩
  · exact hm e _ e' hm'
  · obtain ⟨h₁, -⟩ := hm e _ e₁ hm'
    obtain ⟨h₂, herr⟩ := hh err₀ e₁ r e' hh'
    exact ⟨h₂.trans h₁, fun err hr key hkey => h₁ ▸ herr err hr key hkey⟩

theorem lockSafe_withLock (key : String) {body : Svc α} (hb : LockFree body) :
    LockSafe (withLock key body) := by
  intro e r e' hx
  rcases withLock_cases hx with ⟨hkey, rfl, rfl⟩ | ⟨hkey, e₁, hbody, rfl⟩
  · exact ⟨rfl, fun err hr k hk => by cases hr; cases hk; exact hkey⟩
  · obtain ⟨hheld, herr⟩ := hb _ r e₁ hbody
    -- the body ran with the key pushed on the keys held, and left them as it found them
    refine ⟨by simp [hheld], fun err hr k hk => ?_⟩
    rw [herr err hr] at hk
    cases hk

theorem LockSafe.handle_rethrow {k : BillingError → Svc β} (hm : LockSafe m)
    (hk : ∀ err, LockSafe (k err)) : LockSafe (tryCatch m fun err => k err >>= fun _ => throw err) := by
  intro e r e' hx
  rcases exec_tryCatch_eq_ok hx with ⟨a, hm', rfl⟩ | ⟨err₀, e₁, hm', hh'⟩
  · exact hm e _ e' hm'
  obtain ⟨h₁, herr₀⟩ := hm e _ e₁ hm'
  rcases exec_bind_eq_ok hh' with ⟨err, hk', rfl⟩ | ⟨b, e₂, hk', hthrow⟩
  · obtain ⟨h₂, herr⟩ := hk err₀ e₁ _ e' hk'
    exact ⟨h₂.trans h₁, fun err' hr key hkey => h₁ ▸ herr err' (by cases hr; rfl) key hkey⟩
  · obtain ⟨h₂, -⟩ := hk err₀ e₁ _ e₂ hk'
    rw [exec_throw] at hthrow
    cases hthrow
    exact ⟨h₂.trans h₁, fun err' hr => by cases hr; exact herr₀ err₀ rfl⟩

theorem lockFree_modify (g : Engine → Engine) (hheld : ∀ e, (g e).held = e.held) :
    LockFree (modify g : Svc PUnit) :=
  lockFree_of_exec (g := fun e => (⟨⟩, g e)) (exec_modify g) hheld

theorem lockFree_stop (o : Overflow) : LockFree (stop o : Svc α) := by
  intro e r e' hx
  cases hx

theorem LockFree.guard {γ : Type} {c : Prop} [Decidable c] {err : BillingError} {k : Svc α}
    (herr : err.waitedFor = none) (hk : LockFree k) :
    LockFree (if c then (throw err : Svc γ) >>= (fun _ => k) else k) := by
  split
  · exact (lockFree_throw herr).bind fun _ => hk
  · exact hk

theorem LockSafe.guard {γ : Type} {c : Prop} [Decidable c] {err : BillingError} {k : Svc α}
    (herr : err.waitedFor = none) (hk : LockSafe k) :
    LockSafe (if c then (throw err : Svc γ) >>= (fun _ => k) else k) := by
  split
  · exact (lockFree_throw herr).lockSafe.bind fun _ => hk
  · exact hk

end Svc

/-! ## The registry -/

namespace Attempts

open Svc

theorem lockFree_get (id : Ident) : LockFree (get id) :=
  lockFree_store.bind fun s => by
    split
    · exact lockFree_pure _
    · exact lockFree_throw rfl

theorem lockFree_payment (id : Ident) : LockFree (payment id) :=
  lockFree_store.bind fun s => by
    split
    · exact lockFree_pure _
    · exact lockFree_throw rfl

theorem lockFree_registerMethod (user : Ident) (gateway token : String) :
    LockFree (registerMethod user gateway token) :=
  lockFree_store.bind fun _ => lockFree_now.bind fun _ => (lockFree_setStore _).bind fun _ =>
    lockFree_pure _

theorem lockFree_updateMethodExpiry (method : Ident) (d : Date) :
    LockFree (updateMethodExpiry method d) :=
  lockFree_store.bind fun s => by
    split
    · exact lockFree_setStore _
    · exact lockFree_throw rfl

theorem lockFree_insertUnlessExists (d : ChargeDraft) : LockFree (insertUnlessExists d) :=
  lockFree_store.bind fun s => by
    split
    · exact lockFree_pure _
    · exact lockFree_store.bind fun _ => lockFree_now.bind fun _ => lockFree_stored _

theorem lockSafe_createAttemptFrom (d : ChargeDraft) : LockSafe (createAttemptFrom d) :=
  lockSafe_withLock _ (lockFree_insertUnlessExists d)

theorem lockSafe_createAttempt (method parent : Ident) (chargeAt : Instant)
    (customAmount : Option Decimal) (retries : Option Int) :
    LockSafe (createAttempt method parent chargeAt customAmount retries) :=
  lockFree_policy.lockSafe.bind fun _ => lockSafe_createAttemptFrom _

theorem lockSafe_scheduleNext (charged : Charge) (sub : Option Subscription) (terms : Terms) :
    LockSafe (scheduleNext charged sub terms) := by
  unfold scheduleNext
  dsimp only
  refine LockSafe.guard rfl ?_
  split
  · refine (lockFree_payment _).lockSafe.bind fun p => lockFree_policy.lockSafe.bind fun pol =>
      lockFree_now.lockSafe.bind fun t => ?_
    -- the schedule is computed, refused, or stops on an overflow; only a computed one is made
    split
    · exact (lockFree_pure _).lockSafe.bind fun _ => lockSafe_createAttemptFrom _
    · exact (lockFree_throw rfl).lockSafe.bind fun _ => lockSafe_createAttemptFrom _
    · exact (lockFree_stop _).lockSafe.bind fun _ => lockSafe_createAttemptFrom _
  · exact (lockFree_throw rfl).lockSafe

variable {change : Charge → Svc Charge}

theorem lockFree_updateLocked (id : Ident) (hch : ∀ c, LockFree (change c)) :
    LockFree (updateLocked id change) :=
  (lockFree_get id).bind fun c => (hch c).bind fun _ => lockFree_store.bind fun _ =>
    lockFree_now.bind fun _ => (lockFree_stored _).bind fun _ => lockFree_pure _

theorem lockSafe_update (id : Ident) (hch : ∀ c, LockFree (change c)) :
    LockSafe (update id change) := by
  unfold update
  refine (lockSafe_withLock _ (lockFree_updateLocked id hch)).bind fun ⟨old, c⟩ => ?_
  dsimp only
  refine LockFree.lockSafe ?_
  split
  · exact (lockFree_emit _ _).bind fun _ => lockFree_pure _
  · exact lockFree_pure _

theorem lockSafe_transition (id : Ident) (t : ChargeState) (actor : Actor) (u : ChargeUpdate) :
    LockSafe (transition id t actor u) :=
  lockSafe_update id fun c => by
    split
    · exact lockFree_pure _
    · exact lockFree_throw rfl

theorem lockSafe_claim (id : Ident) : LockSafe (claim id) := by
  unfold claim
  refine lockSafe_withLock _ ((lockFree_get id).bind fun c => lockFree_now.bind fun _ =>
    lockFree_policy.bind fun _ => (lockFree_time _).bind fun _ => ?_)
  split
  · exact lockFree_pure _
  · exact lockFree_store.bind fun _ => lockFree_now.bind fun _ => (lockFree_stored _).map _

theorem lockSafe_releaseClaim (id : Ident) : LockSafe (releaseClaim id) :=
  lockSafe_update id fun _ => lockFree_pure _

theorem lockSafe_linkPayment (id payment : Ident) : LockSafe (linkPayment id payment) :=
  (lockSafe_update id fun _ => lockFree_pure _).bind_pure _

theorem lockSafe_rearmFailed (id : Ident) : LockSafe (rearmFailed id) := by
  unfold rearmFailed
  refine lockFree_policy.lockSafe.bind fun pol => lockSafe_update id fun c => ?_
  dsimp only
  refine LockFree.guard rfl ?_
  split
  · exact lockFree_pure _
  · exact lockFree_now.bind fun _ => (lockFree_time _).bind fun _ => lockFree_pure _

theorem lockFree_canBeStopped (c : Charge) : LockFree (canBeStopped c) := by
  unfold canBeStopped
  refine (lockFree_payment _).bind fun parent => lockFree_gateways.bind fun gs => ?_
  simp only
  split
  · split
    · exact lockFree_pure _
    · exact lockFree_pure _
  · exact lockFree_pure _

theorem lockFree_canBeStoppedByUser (c : Charge) : LockFree (canBeStoppedByUser c) := by
  unfold canBeStoppedByUser
  refine (lockFree_canBeStopped c).bind fun b => ?_
  split
  · exact lockFree_pure _
  · exact (lockFree_payment _).bind fun _ => lockFree_gateways.bind fun _ => lockFree_pure _

theorem lockSafe_stopByUser (id : Ident) : LockSafe (stopByUser id) := by
  unfold stopByUser
  refine (lockFree_get id).lockSafe.bind fun c => (lockFree_canBeStoppedByUser c).lockSafe.bind
    fun _ => ?_
  dsimp only
  exact LockSafe.guard rfl (lockSafe_transition _ _ _ _)

theorem lockSafe_stopByAdmin (id : Ident) (reason : String) : LockSafe (stopByAdmin id reason) := by
  unfold stopByAdmin
  refine (lockFree_get id).lockSafe.bind fun c => (lockFree_canBeStopped c).lockSafe.bind
    fun _ => ?_
  dsimp only
  exact LockSafe.guard rfl (lockSafe_transition _ _ _ _)

theorem lockFree_reactivateLocked (id : Ident) : LockFree (reactivateLocked id) := by
  unfold reactivateLocked
  refine lockFree_now.bind fun t => lockFree_policy.bind fun pol => (lockFree_get id).bind
    fun stopped => ?_
  dsimp only
  refine LockFree.guard rfl (LockFree.guard rfl ((lockFree_time _).bind fun _ => ?_))
  refine LockFree.guard rfl (lockFree_store.bind fun s => ?_)
  -- a later attempt of the parent refuses; otherwise the fresh attempt is made and the note written
  have hmake : LockFree (do
      let due ← time (shiftBy t pol.reactivationDelay)
      let s₁ ← store
      let fresh ← stored (s₁.createCharge
        { method := stopped.method, parent := stopped.parent, chargeAt := due,
          retries := pol.defaultRetries, customAmount := stopped.customAmount,
          renewalItem := stopped.renewalItem, note := some ("Reactivated from " ++ id.text) } t)
      let s₂ ← store
      let _ ← stored (s₂.saveCharge (stopped.pushNote ("Reactivated as " ++ fresh.id.text)) t)
      pure fresh) :=
    (lockFree_time _).bind fun _ => lockFree_store.bind fun _ => (lockFree_stored _).bind fun _ =>
      lockFree_store.bind fun _ => (lockFree_stored _).bind fun _ => lockFree_pure _
  split
  · exact LockFree.guard rfl hmake
  · exact hmake

theorem lockSafe_reactivateAfterSystemStop (id : Ident) :
    LockSafe (reactivateAfterSystemStop id) := by
  unfold reactivateAfterSystemStop
  refine (lockFree_get id).lockSafe.bind fun c => (lockFree_canBeStopped c).lockSafe.bind
    fun _ => ?_
  dsimp only
  exact LockSafe.guard rfl (lockSafe_withLock _ (lockFree_reactivateLocked id))

theorem lockSafe_reactivateByUser (id : Ident) : LockSafe (reactivateByUser id) := by
  unfold reactivateByUser
  refine (lockFree_get id).lockSafe.bind fun c => (lockFree_canBeStoppedByUser c).lockSafe.bind
    fun _ => ?_
  dsimp only
  refine LockSafe.guard rfl (lockSafe_update id fun c => ?_)
  refine LockFree.guard rfl (lockFree_now.bind fun _ => ?_)
  exact LockFree.guard rfl (lockFree_pure _)

theorem lockFree_chargeable (ids : Option (List Ident)) : LockFree (chargeable ids) :=
  lockFree_now.bind fun _ => lockFree_policy.bind fun _ => (lockFree_time _).bind fun _ =>
    lockFree_store.bind fun _ => lockFree_shuffle.bind fun _ => lockFree_pure _

theorem lockFree_previousCharged (c : Charge) : LockFree (previousCharged c) :=
  lockFree_store.bind fun _ => lockFree_pure _

end Attempts

/-! ## The ledger -/

namespace Ledger

open Svc

theorem lockFree_applyLocked (id : Ident) (u : StatusRequest) : LockFree (applyLocked id u) := by
  unfold applyLocked
  refine (Attempts.lockFree_payment id).bind fun p => ?_
  dsimp only
  split
  · exact (lockFree_count _).bind fun _ => lockFree_pure _
  split
  · exact (lockFree_count _).bind fun _ => lockFree_pure _
  exact lockFree_now.bind fun _ => lockFree_store.bind fun _ => (lockFree_stored _).bind fun _ =>
    (lockFree_count _).bind fun _ => lockFree_pure _

theorem lockSafe_updateStatus (id : Ident) (u : StatusRequest) : LockSafe (updateStatus id u) := by
  unfold updateStatus
  refine (lockSafe_withLock _ (lockFree_applyLocked id u)).bind fun x => ?_
  refine LockFree.lockSafe ?_
  split
  · exact lockFree_pure _
  · exact (lockFree_emit _ _).bind fun _ => (lockFree_publish _ _).bind fun _ => lockFree_pure _

end Ledger

theorem BillingError.waitedFor_of_isSystemic {err : BillingError} (h : err.isSystemic = true) :
    err.waitedFor = none := by
  cases err <;> first | rfl | cases h

/-! ## Charge runs and callbacks -/

namespace Run

open Svc Attempts

theorem lockFree_fastChargeConflict (c : Charge) : LockFree (fastChargeConflict c) := by
  unfold fastChargeConflict
  refine lockFree_policy.bind fun pol => ?_
  dsimp only
  split
  · exact lockFree_pure _
  · refine (lockFree_previousCharged c).bind fun x => ?_
    split
    · exact lockFree_pure _
    · exact lockFree_pure _

theorem lockFree_parentPayment (c : Charge) : LockFree (parentPayment c) :=
  lockFree_store.bind fun s => by
    split
    · exact lockFree_pure _
    · exact lockFree_throw rfl

theorem lockFree_chargedPayment (pid : Ident) : LockFree (chargedPayment pid) :=
  lockFree_store.bind fun s => by
    split
    · exact lockFree_pure _
    · exact lockFree_throw rfl

theorem lockFree_createFor (c : Charge) (parent : Payment) : LockFree (createFor c parent) :=
  lockFree_store.bind fun _ => lockFree_now.bind fun _ => (lockFree_setStore _).bind fun _ =>
    lockFree_pure _

theorem lockFree_appendLog (payment charge : Ident) (r : GatewayResponse) :
    LockFree (appendLog payment charge r) :=
  lockFree_now.bind fun _ => lockFree_store.bind fun _ => lockFree_setStore _

theorem lockFree_callGateway (g : Gateway) (p : Payment) (c : Charge) :
    LockFree (callGateway g p c) :=
  lockFree_of_exec (g := fun e => ((g.charge p c.token).1, e.afterCharge g p c))
    (exec_callGateway g p c) fun _ => rfl

theorem lockSafe_openPayment (c : Charge) : LockSafe (openPayment c) :=
  (lockFree_parentPayment c).lockSafe.bind fun parent => (lockFree_createFor c parent).lockSafe.bind
    fun _ => lockSafe_linkPayment _ _

theorem lockSafe_paymentFor (c : Charge) : LockSafe (paymentFor c) := by
  unfold paymentFor
  split
  · exact (lockFree_pure _).lockSafe
  · exact lockSafe_openPayment c

theorem lockSafe_settle (p : Payment) (g : Gateway) (r : GatewayResponse) : LockSafe (settle p g r) :=
  Ledger.lockSafe_updateStatus _ _

theorem lockSafe_fail (p : Payment) (r : GatewayResponse) (notify : Bool) :
    LockSafe (fail p r notify) :=
  Ledger.lockSafe_updateStatus _ _

theorem lockSafe_stopFast (c : Charge) : LockSafe (stopFast c) :=
  (lockSafe_transition _ _ _ _).bind_pure _

theorem lockSafe_completeAlreadyPaid (c : Charge) (p : Payment) :
    LockSafe (completeAlreadyPaid c p) :=
  (lockSafe_transition _ _ _ _).bind fun _ => (lockFree_appendLog _ _ _).lockSafe

theorem lockSafe_completeOrCall (c : Charge) (pid : Ident) : LockSafe (completeOrCall c pid) := by
  unfold completeOrCall
  refine (lockFree_chargedPayment pid).lockSafe.bind fun p => ?_
  split
  · exact (lockSafe_completeAlreadyPaid c p).bind_pure _
  · exact ((lockFree_requireGateway _).bind fun _ => lockFree_pure _).lockSafe

theorem lockSafe_prepare (c : Charge) : LockSafe (prepare c) := by
  unfold prepare
  refine (lockFree_fastChargeConflict c).lockSafe.bind fun x => ?_
  split
  · exact lockSafe_stopFast c
  · exact (lockSafe_paymentFor c).bind fun pid => lockSafe_completeOrCall c pid

theorem lockSafe_applyReply (c : Charge) (p : Payment) (g : Gateway) (reply : ChargeReply) :
    LockSafe (applyReply c p g reply) := by
  cases reply with
  | settled r =>
    exact (lockSafe_settle p g r).bind fun _ => (lockSafe_transition _ _ _ _).bind_pure _
  | pending r => exact (lockSafe_transition _ _ _ _).bind_pure _
  | failed f =>
    obtain ⟨kind, r⟩ := f
    cases kind with
    | retryable =>
      exact (lockSafe_fail p r false).bind fun _ => (lockSafe_transition _ _ _ _).bind fun _ =>
        (lockSafe_rearmFailed _).bind_pure _
    | terminal =>
      exact (lockSafe_fail p r true).bind fun _ => (lockSafe_transition _ _ _ _).bind_pure _
    | hard =>
      exact (lockFree_count _).lockSafe.bind fun _ => (lockSafe_transition _ _ _ _).bind_pure _

theorem lockSafe_process (due : Charge) : LockSafe (process due) := by
  unfold process
  refine (lockSafe_claim due.id).bind fun x => ?_
  cases x with
  | none => exact ((lockFree_count _).bind fun _ => lockFree_pure _).lockSafe
  | some c =>
  dsimp only
  refine ((lockSafe_prepare _).handle_rethrow fun _ =>
    (lockSafe_releaseClaim _).handle fun _ => (lockFree_pure _).lockSafe).bind fun prepared => ?_
  split
  · exact ((lockFree_count _).bind fun _ => lockFree_pure _).lockSafe
  · exact (lockFree_callGateway _ _ _).lockSafe.bind fun _ => (lockSafe_applyReply _ _ _ _).bind
      fun _ => ((lockFree_appendLog _ _ _).bind fun _ => (lockFree_count _).bind fun _ =>
        lockFree_pure _).lockSafe

theorem lockSafe_processAll : ∀ (l : List Charge) (s : Summary), LockSafe (processAll l s)
  | [], s => (lockFree_pure s).lockSafe
  | c :: rest, s => by
    unfold processAll
    refine (((lockSafe_process c).map _).handle fun _ => (lockFree_pure _).lockSafe).bind
      fun r => ?_
    have hnext : LockSafe (processAll rest (s.record c.id r)) := lockSafe_processAll rest _
    dsimp only
    split
    · rename_i err
      split
      · exact (lockFree_count _).lockSafe.bind fun _ =>
          (lockFree_throw (err.waitedFor_of_isSystemic ‹_›)).lockSafe.bind fun _ =>
            (lockFree_count _).lockSafe.bind fun _ => hnext
      · exact (lockFree_count _).lockSafe.bind fun _ => hnext
    · exact hnext

theorem lockSafe_run (ids : Option (List Ident)) : LockSafe (run ids) :=
  (lockFree_chargeable ids).lockSafe.bind fun l => lockSafe_processAll l {}

theorem lockFree_pendingCheck (id : Ident) (succeeded : Bool) :
    LockFree (pendingCheck id succeeded) := by
  unfold pendingCheck
  refine (lockFree_get id).bind fun c => ?_
  dsimp only
  refine LockFree.guard rfl ?_
  split
  · refine lockFree_store.bind fun s => ?_
    split
    · exact (lockFree_requireGateway _).bind fun _ => lockFree_pure _
    · exact lockFree_throw rfl
  · exact lockFree_throw rfl

theorem lockSafe_resolvePending (id : Ident) (succeeded : Bool) (r : GatewayResponse) :
    LockSafe (resolvePending id succeeded r) := by
  rw [resolvePending_eq]
  refine (lockFree_pendingCheck id succeeded).lockSafe.bind fun ⟨pid, p, g⟩ => ?_
  have hledger : LockSafe (if succeeded then settle p g r else fail p r true) := by
    split
    · exact lockSafe_settle p g r
    · exact lockSafe_fail p r true
  refine hledger.bind fun _ => (lockSafe_transition _ _ _ _).bind fun c => ?_
  have hrearm : LockSafe (if succeeded then pure c else rearmFailed id) := by
    split
    · exact (lockFree_pure c).lockSafe
    · exact lockSafe_rearmFailed id
  exact hrearm.bind fun _ => ((lockFree_appendLog _ _ _).bind fun _ => (lockFree_count _).bind
    fun _ => lockFree_pure _).lockSafe

theorem Summary.record_attempts (s : Summary) (id : Ident) (r : Except BillingError Outcome) :
    (s.record id r).attempts = s.attempts ++ [⟨id, r.mapError BillingError.text⟩] := by
  unfold Summary.record
  rcases r with _ | (_ | _ | _ | _ | _ | _ | _) <;> rfl

end Run

theorem BillingError.text_ne_lockTimeout {err : BillingError} (h : err.waitedFor = none)
    (key : String) (ms : Nat) : err.text ≠ (BillingError.lockTimeout key ms).text := by
  intro htext
  have hhead := congrArg (fun t => t.toList.head?) htext
  -- the texts are unfolded before `simp` reads their first characters
  cases err with
  | lockTimeout => cases h
  | storage f => cases f <;> dsimp only [BillingError.text, Fault.text] at hhead <;> simp at hhead
  | _ => dsimp only [BillingError.text] at hhead; simp at hhead

/-! ## The refresh of expiry dates -/

namespace Expiry

open Svc

theorem lockFree_writeChanged (answers : List (String × Date)) :
    ∀ (ms : List Method) (n : Nat), LockFree (writeChanged answers ms n)
  | [], n => lockFree_pure n
  | m :: rest, n => by
    unfold writeChanged
    split
    · exact lockFree_writeChanged answers rest n
    · split
      · exact lockFree_writeChanged answers rest n
      · refine lockFree_store.bind fun s => ?_
        dsimp only
        split
        · exact (lockFree_setStore _).bind fun _ => lockFree_writeChanged answers rest (n + 1)
        · exact (lockFree_throw rfl).bind fun _ => lockFree_writeChanged answers rest (n + 1)

theorem lockFree_refresh (gateway : String) : LockFree (refresh gateway) := by
  unfold refresh
  refine (lockFree_requireGateway gateway).bind fun g => ?_
  dsimp only
  split
  · exact lockFree_pure _
  refine lockFree_store.bind fun s => ?_
  split
  · exact lockFree_pure _
  split
  · exact (lockFree_count _).bind fun _ => lockFree_throw rfl
  · exact lockFree_writeChanged _ _ _

end Expiry

/-! ## Every operation -/

open Svc in
theorem RegistryOp.lockSafe_act (op : RegistryOp) : LockSafe op.act := by
  open Attempts in
  cases op with
  | registerMethod user gateway token =>
    exact ((lockFree_registerMethod user gateway token).bind fun _ => lockFree_pure _).lockSafe
  | updateMethodExpiry method d => exact (lockFree_updateMethodExpiry method d).lockSafe
  | createAttempt method parent chargeAt customAmount retries =>
    exact (lockSafe_createAttempt method parent chargeAt customAmount retries).bind_pure _
  | createAttemptFrom d => exact (lockSafe_createAttemptFrom d).bind_pure _
  | scheduleNext id sub terms =>
    exact (lockFree_get id).lockSafe.bind fun c => (lockSafe_scheduleNext c sub terms).bind_pure _
  | transition id t actor u =>
    exact (lockSafe_transition id t actor u).bind_pure _
  | claim id => exact (lockSafe_claim id).bind_pure _
  | linkPayment id payment =>
    exact (lockSafe_linkPayment id payment).bind_pure _
  | rearmFailed id => exact (lockSafe_rearmFailed id).bind_pure _
  | stopByUser id => exact (lockSafe_stopByUser id).bind_pure _
  | stopByAdmin id reason =>
    exact (lockSafe_stopByAdmin id reason).bind_pure _
  | reactivateAfterSystemStop id =>
    exact (lockSafe_reactivateAfterSystemStop id).bind_pure _
  | reactivateByUser id => exact (lockSafe_reactivateByUser id).bind_pure _

open Svc in
/-- Every operation of the service gives back the locks it takes and waits only for keys held
before it started. -/
theorem Op.lockSafe_act (op : Op) : LockSafe op.act := by
  cases op with
  | issueIdent =>
    exact (lockFree_modify (fun e => { e with store := e.store.fresh.2 }) fun _ => rfl).lockSafe
  | setClock t => exact (lockFree_modify (fun e => { e with now := t }) fun _ => rfl).lockSafe
  | setGateway g =>
    exact (lockFree_modify (fun e => { e with gateways := e.gateways.register g }) fun _ => rfl).lockSafe
  | seedPayment p => exact (lockFree_store.bind fun _ => lockFree_setStore _).lockSafe
  | createPayment d =>
    exact (lockFree_store.bind fun _ => lockFree_now.bind fun _ => lockFree_setStore _).lockSafe
  | putCharge c => exact (lockFree_store.bind fun _ => lockFree_setStore _).lockSafe
  | registry op => exact op.lockSafe_act
  | releaseClaim id =>
    exact (Attempts.lockSafe_releaseClaim id).bind_pure _
  | updateStatus id u =>
    exact (Ledger.lockSafe_updateStatus id u).bind_pure _
  | run ids => exact (Run.lockSafe_run ids).bind_pure _
  | resolvePending id succeeded r =>
    exact (Run.lockSafe_resolvePending id succeeded r).bind_pure _
  | refreshExpiry g => exact ((Expiry.lockFree_refresh g).bind fun _ => lockFree_pure _).lockSafe

namespace Svc

theorem LockSafe.free {α : Type} {m : Svc α} (h : LockSafe m) {e e' : Engine}
    {r : Except BillingError α} (hfree : e.held = []) (hx : m.exec e = .ok (r, e')) :
    e'.held = [] ∧ ∀ err, r = .error err → err.waitedFor = none := by
  obtain ⟨hheld, herr⟩ := h e r e' hx
  refine ⟨hheld.trans hfree, fun err hr => ?_⟩
  cases hw : err.waitedFor with
  | none => rfl
  | some key =>
    have := herr err hr key hw
    rw [hfree] at this
    cases this

end Svc

namespace Run

theorem processAll_reports_wait_for_nothing :
    ∀ (l : List Charge) (s : Summary) {e e' : Engine} {s' : Summary}, e.held = [] →
      (∀ rep ∈ s.attempts, ∀ key ms, rep.outcome ≠ .error (BillingError.lockTimeout key ms).text) →
      (processAll l s).exec e = .ok (.ok s', e') →
      ∀ rep ∈ s'.attempts, ∀ key ms, rep.outcome ≠ .error (BillingError.lockTimeout key ms).text
  | [], s, e, e', s', _, hs, h => by
    unfold processAll at h
    cases h
    exact hs
  | c :: rest, s, e, e', s', hfree, hs, h => by
    obtain ⟨x, e₁, hx, hcases⟩ := processAll_cons_cases h
    obtain ⟨hfree₁, hx⟩ := (lockSafe_process c).free hfree hx
    rcases hcases with ⟨err, -, -, -, hr⟩ | ⟨e₂, he₂, hrest⟩
    · cases hr
    have hfree₂ : e₂.held = [] := by
      rcases he₂ with rfl | rfl
      · exact hfree₁
      · exact hfree₁
    refine processAll_reports_wait_for_nothing rest _ hfree₂ ?_ hrest
    -- the new report is the attempt's outcome, or the text of an error that waited for no lock
    intro rep hrep key ms
    rw [Summary.record_attempts] at hrep
    rcases List.mem_append.mp hrep with hold | hnew
    · exact hs rep hold key ms
    rw [List.mem_singleton] at hnew
    subst hnew
    cases x with
    | ok o => simp [Except.mapError]
    | error err =>
      simp only [Except.mapError, ne_eq, Except.error.injEq]
      exact BillingError.text_ne_lockTimeout (hx err rfl) key ms

end Run

open Svc in
/-- From an engine where no other party holds a lock, no operation of the service waits for a
lock: none fails with a lock timeout, every one ends with no lock held, and no attempt of a charge
run is reported as having waited for one. -/
theorem operations_never_wait_for_a_lock {e : Engine} (hfree : e.held = []) :
    (∀ (op : Op) r e', op.act.exec e = .ok (r, e') →
      e'.held = [] ∧ ∀ key ms, r ≠ .error (.lockTimeout key ms)) ∧
    ∀ ids s e', (Run.run ids).exec e = .ok (.ok s, e') →
      ∀ rep ∈ s.attempts, ∀ key ms, rep.outcome ≠ .error (BillingError.lockTimeout key ms).text := by
  refine ⟨fun op r e' hx => ?_, fun ids s e' hx => ?_⟩
  · obtain ⟨hheld, herr⟩ := (Op.lockSafe_act op).free hfree hx
    exact ⟨hheld, fun key ms hr => by cases herr _ hr⟩
  · unfold Run.run at hx
    rcases exec_bind_eq_ok hx with ⟨err, -, hr⟩ | ⟨l, e₁, hl, hloop⟩
    · cases hr
    obtain ⟨rfl, -⟩ := Attempts.reads_chargeable ids e _ e₁ hl
    exact Run.processAll_reports_wait_for_nothing l {} hfree (fun _ h => by cases h) hloop

/-- A service with one scripted gateway, a paid parent, a stored method and an attempt due now,
where no lock is held. -/
theorem operations_never_wait_on_a_quiet_service :
    let p₀ : Payment :=
      { id := Ident.ofSerial 1, user := ⟨0⟩, gateway := "test", status := .paid,
        amount := ⟨1999, 2, false⟩, paidAt := none, subscription := none, catalogItem := none,
        address := none, isRecurrent := false, parent := none, note := none,
        errorMessage := none, created := Instant.epoch, updated := Instant.epoch }
    let m₀ : Method :=
      { id := Ident.ofSerial 2, user := ⟨0⟩, gateway := "test", token := "tok", expiresOn := none,
        created := Instant.epoch }
    let c₀ : Charge := Charge.ofDraft (Ident.ofSerial 3)
      { method := m₀.id, parent := p₀.id, chargeAt := Instant.epoch, retries := 2,
        customAmount := none, renewalItem := none, note := none } "tok" Instant.epoch
    let e₀ : Engine :=
      { now := Instant.epoch, gateways := ⟨[{ id := "test", answering := .scripted [] }]⟩,
        store := { payments := [p₀], methods := [m₀], rows := [⟨c₀, 1⟩], seq := 1, serial := 3 } }
    e₀.held = [] ∧
      (∀ (op : Op) r e', op.act.exec e₀ = .ok (r, e') →
        e'.held = [] ∧ ∀ key ms, r ≠ .error (.lockTimeout key ms)) ∧
      ∀ ids s e', (Run.run ids).exec e₀ = .ok (.ok s, e') →
        ∀ rep ∈ s.attempts, ∀ key ms, rep.outcome ≠ .error (BillingError.lockTimeout key ms).text := by
  intro p₀ m₀ c₀ e₀
  exact ⟨rfl, operations_never_wait_for_a_lock rfl⟩

end Rebill
