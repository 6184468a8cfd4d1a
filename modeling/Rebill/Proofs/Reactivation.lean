import Rebill.Proofs.Plan
import Rebill.Proofs.Operations

/-!
# Reactivation, and the attempt it writes back

A reactivation replaces an exhausted system-stopped attempt by a fresh one, holding the lock of the
attempt's parent. It reads the stopped attempt, checks it, makes the fresh attempt, and last saves
the copy it read, with a note of the fresh attempt, over the stored row
(`Attempts.reactivateLocked`). Every other change of an attempt is made under the attempt's own
lock, reading the row and saving it back in one section (`Attempts.update`).

The two locks differ, so the attempt's own operations may run between the reactivation's read and
its write-back. `Attempts.reactivateThen` is the reactivation up to its fresh attempt, with the rest
given; `Attempts.reactivateAround` is the whole reactivation with the operations of another party
run just before the write-back, and with nothing run there it is `reactivateAfterSystemStop`
(`reactivateAfterSystemStop_eq`, by definition).

Main statement (`reactivation_writes_back_the_copy_it_read`): whatever routine operations run
between, a reactivation either refuses and changes nothing, or returns the fresh attempt and leaves
the stopped attempt with the state, status, payment, retries, due instant and note it read before,
the note of the fresh attempt added. Every change those operations made to these fields is lost.
When the attempt can be reactivated (`Attempts.Reactivable`), the reactivation goes through
whatever runs between.
-/

namespace Rebill

namespace Svc

variable {α β : Type}

/-! ## Inverting the steps of a run -/

theorem exec_guard_eq_ok {γ : Type} {c : Prop} [Decidable c] {err : BillingError} {k : Svc β}
    {e e' : Engine} {r : Except BillingError β}
    (h : (if c then (throw err : Svc γ) >>= (fun _ => k) else k).exec e = .ok (r, e')) :
    (e' = e ∧ r = .error err) ∨ ¬c ∧ k.exec e = .ok (r, e') := by
  split at h
  · rw [exec_bind, exec_throw] at h
    cases h
    exact .inl ⟨rfl, rfl⟩
  · exact .inr ⟨‹_›, h⟩

theorem exec_time_eq_ok {m : Except Overflow α} {f : α → Svc β} {e e' : Engine}
    {r : Except BillingError β} (h : (time m >>= f).exec e = .ok (r, e')) :
    ∃ a, m = .ok a ∧ (f a).exec e = .ok (r, e') := by
  rw [exec_bind, exec_time] at h
  rcases m with o | a
  · cases h
  · exact ⟨a, rfl, h⟩

theorem exec_stored_eq_ok {m : Except Fault (α × Store)} {f : α → Svc β} {e e' : Engine}
    {r : Except BillingError β} (h : (stored m >>= f).exec e = .ok (r, e')) :
    (e' = e ∧ ∃ err, r = .error err) ∨
      ∃ a s, m = .ok (a, s) ∧ (f a).exec { e with store := s } = .ok (r, e') := by
  rw [exec_bind, exec_stored] at h
  rcases m with fault | ⟨a, s⟩
  · cases h
    exact .inl ⟨rfl, _, rfl⟩
  · exact .inr ⟨a, s, rfl, h⟩

theorem exec_tryCatch_ignore {m : Svc Unit} {e e' : Engine} {x : Except BillingError Unit}
    (h : m.exec e = .ok (x, e')) : (tryCatch m fun _ => pure ()).exec e = .ok (.ok (), e') := by
  rw [exec_tryCatch, h]
  cases x <;> rfl

theorem exec_tryCatch_ignore_eq_ok {m : Svc Unit} {e e' : Engine} {x : Except BillingError Unit}
    (h : (tryCatch m fun _ => pure ()).exec e = .ok (x, e')) : x = .ok () := by
  rcases exec_tryCatch_eq_ok h with ⟨a, -, rfl⟩ | ⟨err, e₁, -, hh⟩
  · rfl
  · cases hh
    rfl

end Svc

theorem Store.saveCharge_over {s : Store} {c c' : Charge} (hc : s.charge? c'.id = some c)
    (t : Instant) :
    ∃ s', s.saveCharge c' t = .ok (c.savedOver c' t, s') ∧ s'.charge? c'.id = some (c.savedOver c' t) := by
  obtain ⟨row, hrow, rfl⟩ := (Store.charge?_eq_some s).mp hc
  have hs := (Store.saveCharge_eq_ok s (t := t)).mpr ⟨row, hrow, rfl⟩
  rw [Store.withToken_savedOver] at hs
  exact ⟨_, hs, (Store.saveCharge_read s hs).1⟩

namespace Attempts

open Svc Engine

/-! ## The reactivation cut at its write-back -/

/-- The reactivation of `id` under the parent's lock as far as the fresh attempt, then `k` with the
copy of the stopped attempt it read, the fresh attempt and the instant it read. -/
def reactivateThen {β : Type} (id : Ident) (k : Charge → Charge → Instant → Svc β) : Svc β := do
  let t ← now
  let pol ← policy
  let stopped ← get id
  let unavailable := fun (why : String) =>
    (throw (.reactivationUnavailable ("attempt " ++ id.text ++ " " ++ why)) : Svc Unit)
  if stopped.state != .systemStop then unavailable ("is " ++ stopped.state.name ++ ", not system_stop")
  if stopped.retries != 0 then unavailable ("still has " ++ toString stopped.retries ++ " retries")
  let windowStart ← time (shiftBack t pol.reactivationWindow)
  if stopped.chargeAt < windowStart then
    unavailable ("was due at " ++ stopped.chargeAt.display ++ ", outside the reactivation window")
  if let some latest := (← store).latestForParent stopped.parent then
    if latest.id != id then unavailable ("was superseded by " ++ latest.id.text)
  let due ← time (shiftBy t pol.reactivationDelay)
  let fresh ← stored ((← store).createCharge
    { method := stopped.method, parent := stopped.parent, chargeAt := due,
      retries := pol.defaultRetries, customAmount := stopped.customAmount,
      renewalItem := stopped.renewalItem, note := some ("Reactivated from " ++ id.text) } t)
  k stopped fresh t

/-- The reactivation's write-back: the copy read first, with a note of the fresh attempt, saved
over the stored row. -/
def writeBack (stopped fresh : Charge) (t : Instant) : Svc Charge := do
  let _ ← stored ((← store).saveCharge (stopped.pushNote ("Reactivated as " ++ fresh.id.text)) t)
  pure fresh

theorem reactivateLocked_eq (id : Ident) : reactivateLocked id = reactivateThen id writeBack := rfl

/-- The attempt a reactivation of `stopped` under `id` makes: on the same method, for the same
parent, with the same custom amount and renewal item, due at `due`, with `retries` retries and a
note of the attempt it replaces. -/
def reactivationDraft (stopped : Charge) (id : Ident) (due : Instant) (retries : Int) :
    ChargeDraft :=
  { method := stopped.method, parent := stopped.parent, chargeAt := due, retries,
    customAmount := stopped.customAmount, renewalItem := stopped.renewalItem,
    note := some ("Reactivated from " ++ id.text) }

/-- A reactivation of `id` during which another party runs `between`, just before the write-back
and holding nothing but what it takes itself; what `between` ends with is no concern of the
reactivation. -/
def reactivateAround (id : Ident) (between : Svc Unit) : Svc Charge := do
  let c ← get id
  if !(← canBeStopped c) then
    throw (.reactivationUnavailable ("attempt " ++ id.text ++ " cannot be stopped"))
  withLock (parentKey c.parent) (reactivateThen id fun stopped fresh t => do
    tryCatch between fun _ => pure ()
    writeBack stopped fresh t)

theorem reactivateAfterSystemStop_eq (id : Ident) :
    reactivateAfterSystemStop id = reactivateAround id (pure ()) := rfl

/-! ## The pieces one at a time -/

theorem chargeKey_ne_parentKey (x y : Ident) : chargeKey x ≠ parentKey y := by
  unfold chargeKey parentKey
  intro h
  have hsep := congrArg (fun t : String => (t.toList.drop 16).head?) h
  simp at hsep

theorem exec_canBeStopped {c : Charge} {p : Payment} {e : Engine}
    (hp : e.store.payment? c.parent = some p)
    (hg : ∀ g, e.gateways.get? p.gateway = some g → g.unstoppable = false) :
    (canBeStopped c).exec e = .ok (.ok (p.status != .prepaid), e) := by
  unfold canBeStopped
  rw [exec_bind, Attempts.exec_payment, hp]
  simp only
  rw [exec_bind_ok (exec_gateways e)]
  cases hgw : e.gateways.get? p.gateway with
  | none => rfl
  | some g => simp [hg g hgw]

theorem exec_linkPayment_unlinked {id p : Ident} {c : Charge} {e : Engine}
    (hkey : chargeKey id ∉ e.held) (hc : e.store.charge? id = some c) (hnone : c.payment = none) :
    ∃ e', (linkPayment id p).exec e = .ok (.ok p, e') ∧
      e'.store.charge? id = some (c.savedOver { c with payment := some p } e.now) := by
  have hid : c.id = id := Store.id_of_charge? e.store hc
  have hc' : e.store.charge? ({ c with payment := some p } : Charge).id = some c := by
    simpa [hid] using hc
  obtain ⟨s', hs, hread⟩ := Store.saveCharge_over hc' e.now
  have hch : ((fun c : Charge => (pure (if c.payment.isNone then { c with payment := some p } else c) :
      Svc Charge)) c).exec { e with held := chargeKey id :: e.held } =
      .ok (.ok { c with payment := some p }, { e with held := chargeKey id :: e.held }) := by
    simp [hnone]
  refine ⟨e.afterUpdate id c.state (c.savedOver { c with payment := some p } e.now) s', ?_, ?_⟩
  · unfold linkPayment
    rw [exec_bind_ok (update_ok hkey hc hch hs)]
    rfl
  · simpa [hid] using hread

section FirstSection

variable {β : Type}

theorem reactivateThen_inv {id : Ident} {k : Charge → Charge → Instant → Svc β} {e e' : Engine}
    {r : Except BillingError β} (h : (reactivateThen id k).exec e = .ok (r, e')) :
    (e' = e ∧ ∃ err, r = .error err) ∨
      ∃ stopped due fresh s₁, e.store.charge? id = some stopped ∧
        stopped.state = .systemStop ∧ stopped.retries = 0 ∧
        (∃ ws, shiftBack e.now e.policy.reactivationWindow = .ok ws ∧ ¬stopped.chargeAt < ws) ∧
        (∀ c, e.store.latestForParent stopped.parent = some c → c.id = id) ∧
        shiftBy e.now e.policy.reactivationDelay = .ok due ∧
        e.store.createCharge (reactivationDraft stopped id due e.policy.defaultRetries) e.now =
          .ok (fresh, s₁) ∧
        (k stopped fresh e.now).exec { e with store := s₁ } = .ok (r, e') := by
  unfold reactivateThen at h
  rw [exec_bind_ok (exec_now e), exec_bind_ok (exec_policy e), exec_bind, Attempts.exec_get] at h
  cases hc : e.store.charge? id with
  | none =>
    simp only [hc] at h
    cases h
    exact .inl ⟨rfl, _, rfl⟩
  | some stopped =>
  simp only [hc] at h
  rcases exec_guard_eq_ok h with ⟨rfl, rfl⟩ | ⟨hstate, h⟩
  · exact .inl ⟨rfl, _, rfl⟩
  rcases exec_guard_eq_ok h with ⟨rfl, rfl⟩ | ⟨hretries, h⟩
  · exact .inl ⟨rfl, _, rfl⟩
  obtain ⟨ws, hws, h⟩ := exec_time_eq_ok h
  rcases exec_guard_eq_ok h with ⟨rfl, rfl⟩ | ⟨hwin, h⟩
  · exact .inl ⟨rfl, _, rfl⟩
  rw [exec_bind_ok (exec_store e)] at h
  -- a later attempt of the parent refuses; otherwise both ways go on with the fresh attempt
  rcases hl : e.store.latestForParent stopped.parent with _ | latest <;> rw [hl] at h <;>
    dsimp only at h
  on_goal 2 =>
    rcases exec_guard_eq_ok h with ⟨rfl, rfl⟩ | ⟨hne, h⟩
    · exact .inl ⟨rfl, _, rfl⟩
    have hid : latest.id = id := by simpa using hne
  all_goals
    obtain ⟨due, hdue, h⟩ := exec_time_eq_ok h
    rw [exec_bind_ok (exec_store e)] at h
    rcases exec_stored_eq_ok h with ⟨rfl, _, rfl⟩ | ⟨fresh, s₁, hs, h⟩
    · exact .inl ⟨rfl, _, rfl⟩
    refine .inr ⟨stopped, due, fresh, s₁, rfl, by simpa using hstate, by simpa using hretries,
      ⟨ws, hws, hwin⟩, fun c hc => ?_, hdue, hs, h⟩
    rw [hl] at hc
    cases hc <;> exact hid

theorem reactivateThen_cases {id : Ident} {k : Charge → Charge → Instant → Svc β} {e e' : Engine}
    {r : Except BillingError β} (h : (reactivateThen id k).exec e = .ok (r, e')) :
    (e' = e ∧ ∃ err, r = .error err) ∨
      ∃ stopped fresh e₁, e.store.charge? id = some stopped ∧ stopped.state = .systemStop ∧
        stopped.retries = 0 ∧ Routine e e₁ ∧ (k stopped fresh e.now).exec e₁ = .ok (r, e') := by
  rcases reactivateThen_inv h with h | ⟨stopped, _, fresh, s₁, hc, hstate, hretries, -, -, -, hs, hk⟩
  · exact .inl h
  · exact .inr ⟨stopped, fresh, _, hc, hstate, hretries, Routine.createCharge hs, hk⟩

theorem exec_reactivateThen {id : Ident} {e : Engine} {stopped fresh : Charge} {ws due : Instant}
    {s₁ : Store} (hc : e.store.charge? id = some stopped) (hstate : stopped.state = .systemStop)
    (hretries : stopped.retries = 0)
    (hws : shiftBack e.now e.policy.reactivationWindow = .ok ws) (hwin : ¬stopped.chargeAt < ws)
    (hlatest : ∀ c, e.store.latestForParent stopped.parent = some c → c.id = id)
    (hdue : shiftBy e.now e.policy.reactivationDelay = .ok due)
    (hs : e.store.createCharge (reactivationDraft stopped id due e.policy.defaultRetries) e.now =
      .ok (fresh, s₁))
    (k : Charge → Charge → Instant → Svc β) :
    (reactivateThen id k).exec e = (k stopped fresh e.now).exec { e with store := s₁ } := by
  unfold reactivationDraft at hs
  unfold reactivateThen
  rw [exec_bind_ok (exec_now e), exec_bind_ok (exec_policy e), exec_bind, Attempts.exec_get, hc]
  have h₁ : ¬(stopped.state != .systemStop) = true := by simp [hstate]
  have h₂ : ¬(stopped.retries != 0) = true := by simp [hretries]
  simp only [if_neg h₁, if_neg h₂]
  -- the instants are rewritten by equations, never computed: the kernel would unfold them
  rw [exec_bind_time hws]
  simp only [if_neg hwin]
  rw [exec_bind_ok (exec_store e)]
  rcases hl : e.store.latestForParent stopped.parent with _ | latest <;> dsimp only
  on_goal 2 => rw [if_neg (by simp [hlatest latest hl])]
  all_goals
    rw [exec_bind_time hdue, exec_bind_ok (exec_store e), exec_bind, exec_stored, hs]

theorem reactivateThen_proceeds {id : Ident} {e : Engine} {stopped : Charge} {ws due : Instant}
    {m : Method} (hc : e.store.charge? id = some stopped) (hstate : stopped.state = .systemStop)
    (hretries : stopped.retries = 0)
    (hws : shiftBack e.now e.policy.reactivationWindow = .ok ws) (hwin : ¬stopped.chargeAt < ws)
    (hlatest : ∀ c, e.store.latestForParent stopped.parent = some c → c.id = id)
    (hdue : shiftBy e.now e.policy.reactivationDelay = .ok due)
    (hm : e.store.method? stopped.method = some m) (hp : (e.store.payment? stopped.parent).isSome) :
    ∃ fresh e₁, Routine e e₁ ∧ e₁.store.charge? id = some stopped ∧
      ∀ {β : Type} (k : Charge → Charge → Instant → Svc β),
        (reactivateThen id k).exec e = (k stopped fresh e.now).exec e₁ := by
  obtain ⟨fresh, s₁, hs⟩ : ∃ fresh s₁, e.store.createCharge
      (reactivationDraft stopped id due e.policy.defaultRetries) e.now = .ok (fresh, s₁) :=
    ⟨_, _, (Store.createCharge_eq_ok e.store).mpr ⟨m, hm, hp, rfl⟩⟩
  exact ⟨fresh, _, Routine.createCharge hs, Store.charge?_createCharge _ hs hc,
    fun k => exec_reactivateThen hc hstate hretries hws hwin hlatest hdue hs k⟩

end FirstSection

theorem exec_writeBack {stopped c : Charge} {e : Engine} (fresh : Charge) (t : Instant)
    (hc : e.store.charge? stopped.id = some c) :
    ∃ s', (writeBack stopped fresh t).exec e = .ok (.ok fresh, { e with store := s' }) ∧
      s'.charge? stopped.id =
        some (c.savedOver (stopped.pushNote ("Reactivated as " ++ fresh.id.text)) t) := by
  have hc' : e.store.charge? (stopped.pushNote ("Reactivated as " ++ fresh.id.text)).id = some c := hc
  obtain ⟨s', hs, hread⟩ := Store.saveCharge_over hc' t
  refine ⟨s', ?_, hread⟩
  unfold writeBack
  rw [exec_bind_ok (exec_store e), exec_bind, exec_stored, hs]
  rfl

/-! ## The whole reactivation, with operations between -/

/-- What a reactivation of the stored attempt `stopped` under `id` needs from the engine to go
through: the attempt is an exhausted system stop, due within the reactivation window, and the
latest attempt of its parent; the parent is stored, not prepaid, and on a gateway that lets attempts
be stopped; the parent's lock is free; the method is stored; and the clock reaches both the start
of the window and the fresh attempt's due instant. -/
structure Reactivable (e : Engine) (id : Ident) (stopped : Charge) : Prop where
  stored : e.store.charge? id = some stopped
  state : stopped.state = .systemStop
  retries : stopped.retries = 0
  parent : ∃ p, e.store.payment? stopped.parent = some p ∧ p.status ≠ .prepaid ∧
    ∀ g, e.gateways.get? p.gateway = some g → g.unstoppable = false
  free : parentKey stopped.parent ∉ e.held
  window : ∃ ws, shiftBack e.now e.policy.reactivationWindow = .ok ws ∧ ¬stopped.chargeAt < ws
  latest : ∀ c, e.store.latestForParent stopped.parent = some c → c.id = id
  due : ∃ due, shiftBy e.now e.policy.reactivationDelay = .ok due
  method : ∃ m, e.store.method? stopped.method = some m

theorem reactivateAround_cases {id : Ident} {between : Svc Unit} (hb : Keeps Routine between)
    {e e' : Engine} {r : Except BillingError Charge}
    (h : (reactivateAround id between).exec e = .ok (r, e')) :
    (e' = e ∧ ∃ err, r = .error err) ∨
      ∃ stopped fresh c : Charge, e.store.charge? id = some stopped ∧
        stopped.state = .systemStop ∧ stopped.retries = 0 ∧ r = .ok fresh ∧
        e'.store.charge? id =
          some (c.savedOver (stopped.pushNote ("Reactivated as " ++ fresh.id.text)) e.now) := by
  unfold reactivateAround at h
  rcases exec_bind_eq_ok h with ⟨err, hg, rfl⟩ | ⟨c₀, e₀, hg, h⟩
  · exact .inl ⟨((reads_get id) e _ _ hg).1, _, rfl⟩
  rw [((reads_get id) e _ _ hg).1] at h
  rcases exec_bind_eq_ok h with ⟨err, hs, rfl⟩ | ⟨b, e₀, hs, h⟩
  · exact .inl ⟨((reads_canBeStopped c₀) e _ _ hs).1, _, rfl⟩
  rw [((reads_canBeStopped c₀) e _ _ hs).1] at h
  rcases exec_guard_eq_ok h with ⟨rfl, rfl⟩ | ⟨-, h⟩
  · exact .inl ⟨rfl, _, rfl⟩
  rcases withLock_cases h with ⟨-, rfl, rfl⟩ | ⟨-, e₁, hbody, rfl⟩
  · exact .inl ⟨rfl, _, rfl⟩
  rcases reactivateThen_cases hbody with ⟨rfl, err, rfl⟩ |
    ⟨stopped, fresh, e₂, hc, hstate, hretries, hroutine, hk⟩
  · exact .inl ⟨by simp, _, rfl⟩
  -- the other party's operations run with the parent's lock held, then the write-back
  rcases exec_bind_eq_ok hk with ⟨err, hbt, -⟩ | ⟨x, e₃, hbt, hk⟩
  · cases exec_tryCatch_ignore_eq_ok hbt
  have h₂₃ : Routine e₂ e₃ := keepsAt_tryCatch (hb e₂) (fun _ _ _ => keepsAt_pure _) _ _ hbt
  -- the row is still stored, as the operations between left it
  obtain ⟨row, hrow, -⟩ := (Store.charge?_eq_some _).mp hc
  obtain ⟨row₃, hrow₃, -⟩ := (hroutine.trans h₂₃).rows id row hrow
  have hid : stopped.id = id := Store.id_of_charge? _ hc
  have hc₃ : e₃.store.charge? stopped.id = some (e₃.store.withToken row₃.charge) := by
    rw [hid]
    exact (Store.charge?_eq_some _).mpr ⟨row₃, hrow₃, rfl⟩
  obtain ⟨s', hw, hs'⟩ := exec_writeBack fresh e.now hc₃
  rw [hw] at hk
  cases hk
  exact .inr ⟨stopped, fresh, _, hc, by simpa using hstate, by simpa using hretries, rfl,
    by simpa [hid] using hs'⟩

theorem reactivateAround_proceeds {id : Ident} {e : Engine} {stopped : Charge}
    (hr : Reactivable e id stopped) :
    ∃ fresh e₁, e₁.held = parentKey stopped.parent :: e.held ∧ e₁.store.charge? id = some stopped ∧
      ∀ between : Svc Unit, Keeps Routine between → ∀ x e₂, between.exec e₁ = .ok (x, e₂) →
        ∃ c e', e₂.store.charge? id = some c ∧
          (reactivateAround id between).exec e = .ok (.ok fresh, e') ∧
          e'.store.charge? id =
            some (c.savedOver (stopped.pushNote ("Reactivated as " ++ fresh.id.text)) e.now) := by
  obtain ⟨p, hp, hpre, hg⟩ := hr.parent
  obtain ⟨ws, hws, hwin⟩ := hr.window
  obtain ⟨due, hdue⟩ := hr.due
  obtain ⟨m, hm⟩ := hr.method
  have hpay : (e.store.payment? stopped.parent).isSome := by simp [hp]
  obtain ⟨fresh, e₁, hroutine, hc₁, hfirst⟩ :=
    reactivateThen_proceeds (e := { e with held := parentKey stopped.parent :: e.held })
      hr.stored hr.state hr.retries hws hwin hr.latest hdue hm hpay
  refine ⟨fresh, e₁, hroutine.held, hc₁, fun between hb x e₂ hbetween => ?_⟩
  obtain ⟨row, hrow, -⟩ := (Store.charge?_eq_some _).mp hc₁
  obtain ⟨row₂, hrow₂, -⟩ := (hb e₁ x e₂ hbetween).rows id row hrow
  have hc₂ : e₂.store.charge? id = some (e₂.store.withToken row₂.charge) :=
    (Store.charge?_eq_some _).mpr ⟨row₂, hrow₂, rfl⟩
  have hid : stopped.id = id := Store.id_of_charge? _ hr.stored
  obtain ⟨s', hw, hs'⟩ := exec_writeBack fresh e.now (hid ▸ hc₂)
  refine ⟨_, { e₂ with store := s', held := e₂.held.erase (parentKey stopped.parent) }, hc₂, ?_,
    by simpa [hid] using hs'⟩
  have hget : (get id).exec e = .ok (.ok stopped, e) := by rw [Attempts.exec_get, hr.stored]
  have hstop : ¬((!(p.status != PaymentStatus.prepaid)) = true) := by simp [hpre]
  unfold reactivateAround
  rw [exec_bind_ok hget, exec_bind_ok (exec_canBeStopped hp hg)]
  dsimp only
  rw [if_neg hstop, exec_withLock, if_neg hr.free, hfirst, exec_bind, exec_tryCatch_ignore hbetween]
  dsimp only
  rw [hw]

/-- A reactivation takes its parent's lock, and the attempt's own operations take the attempt's,
so they may run between the reactivation's read and its write-back (`reactivateAround`; with
nothing between it is `reactivateAfterSystemStop`). Whatever routine operations run there, the
reactivation refuses and changes nothing, or it returns the fresh attempt and the stopped attempt
ends with the state, status, payment, retries, due instant and note of the copy read before them,
the note of the fresh attempt added: the changes they made to these fields are lost. A reactivable
attempt is reactivated whatever runs between. -/
theorem reactivation_writes_back_the_copy_it_read (id : Ident) :
    reactivateAfterSystemStop id = reactivateAround id (pure ()) ∧
    (∀ between : Svc Unit, Keeps Routine between → ∀ e e' r,
      (reactivateAround id between).exec e = .ok (r, e') →
      (e' = e ∧ ∃ err, r = .error err) ∨
      ∃ stopped fresh c : Charge, e.store.charge? id = some stopped ∧
        stopped.state = .systemStop ∧ stopped.retries = 0 ∧ r = .ok fresh ∧
        e'.store.charge? id =
          some (c.savedOver (stopped.pushNote ("Reactivated as " ++ fresh.id.text)) e.now)) ∧
    ∀ e stopped, Reactivable e id stopped →
      ∃ fresh e₁, e₁.held = parentKey stopped.parent :: e.held ∧ e₁.store.charge? id = some stopped ∧
        ∀ between : Svc Unit, Keeps Routine between → ∀ x e₂, between.exec e₁ = .ok (x, e₂) →
          ∃ c e', e₂.store.charge? id = some c ∧
            (reactivateAround id between).exec e = .ok (.ok fresh, e') ∧
            e'.store.charge? id =
              some (c.savedOver (stopped.pushNote ("Reactivated as " ++ fresh.id.text)) e.now) :=
  ⟨reactivateAfterSystemStop_eq id, fun _ hb _ _ _ h => reactivateAround_cases hb h,
    fun _ _ hr => reactivateAround_proceeds hr⟩

/-- An exhausted system stop, due now, the only attempt of a paid parent on the test gateway: a
payment is linked to it between the reactivation's read and its write-back, and the link goes
through, but the reactivation returns the fresh attempt and leaves the stopped one with no
payment. -/
theorem reactivation_loses_a_link_made_in_between :
    let t₀ : Instant := ⟨1709251200, 0⟩
    let p₁ : Payment :=
      { id := Ident.ofSerial 1, user := ⟨0⟩, gateway := "test", status := .paid,
        amount := ⟨1999, 2, false⟩, paidAt := none, subscription := none, catalogItem := none,
        address := none, isRecurrent := false, parent := none, note := none,
        errorMessage := none, created := t₀, updated := t₀ }
    let q₀ : Payment := { p₁ with id := Ident.ofSerial 2, status := .form }
    let m₀ : Method :=
      { id := Ident.ofSerial 3, user := ⟨0⟩, gateway := "test", token := "tok", expiresOn := none,
        created := t₀ }
    let a₀ : Charge :=
      { Charge.ofDraft (Ident.ofSerial 4)
          { method := m₀.id, parent := p₁.id, chargeAt := t₀, retries := 0, customAmount := none,
            renewalItem := none, note := none } "tok" t₀ with state := .systemStop }
    let e₀ : Engine :=
      { now := t₀, gateways := ⟨[{ id := "test", answering := .scripted [] }]⟩,
        store := { payments := [p₁, q₀], methods := [m₀], rows := [⟨a₀, 1⟩], seq := 1, serial := 4 } }
    Reactivable e₀ a₀.id a₀ ∧ ∃ fresh e₁ e₂ e' c, e₁.held = [parentKey a₀.parent] ∧
      (linkPayment a₀.id q₀.id).exec e₁ = .ok (.ok q₀.id, e₂) ∧
      e₂.store.charge? a₀.id = some c ∧ c.payment = some q₀.id ∧
      (reactivateAround a₀.id (RegistryOp.linkPayment a₀.id q₀.id).act).exec e₀ =
        .ok (.ok fresh, e') ∧
      (e'.store.charge? a₀.id).map (·.payment) = some none := by
  intro t₀ p₁ q₀ m₀ a₀ e₀
  have hr : Reactivable e₀ a₀.id a₀ :=
    { stored := rfl
      state := rfl
      retries := rfl
      parent := ⟨p₁, rfl, by decide, fun g hg => by cases hg; rfl⟩
      free := by simp [e₀]
      window := ⟨⟨1708041600, 0⟩, by decide +kernel, by decide⟩
      latest := fun c hc => by cases hc; rfl
      due := ⟨⟨1709337600, 0⟩, by decide +kernel⟩
      method := ⟨m₀, rfl⟩ }
  obtain ⟨fresh, e₁, hheld, hc₁, hall⟩ :=
    (reactivation_writes_back_the_copy_it_read a₀.id).2.2 e₀ a₀ hr
  -- the attempt's own lock is free while the reactivation holds its parent's
  have hkey : chargeKey a₀.id ∉ e₁.held := by
    simp [hheld, e₀, chargeKey_ne_parentKey]
  obtain ⟨e₂, hlink, hc₂⟩ := exec_linkPayment_unlinked (p := q₀.id) hkey hc₁ rfl
  have hact : (RegistryOp.linkPayment a₀.id q₀.id).act.exec e₁ = .ok (.ok (), e₂) := by
    unfold RegistryOp.act
    rw [exec_bind_ok hlink]
    rfl
  obtain ⟨c, e', hc, hrun, hfinal⟩ := hall _ (fun e => RegistryOp.keepsAt_act _ e) _ _ hact
  rw [hc₂] at hc
  cases hc
  refine ⟨hr, fresh, e₁, e₂, e', _, hheld, hlink, hc₂, rfl, hrun, ?_⟩
  rw [hfinal]
  rfl

end Attempts

end Rebill
