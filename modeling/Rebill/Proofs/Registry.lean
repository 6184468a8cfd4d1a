import Rebill.Proofs.AttemptMoves

/-!
# What the attempt registry does to the engine

Every operation of the attempt registry except `releaseClaim` is *routine* (`Engine.Routine`):
it lets the stored attempts evolve (`Charge.Evolves`) and may add new ones, and it leaves alone
everything else that matters to billing: the payments, the audit log, the payment status events
and messages, the charges asked of the gateways, the locks, the clock and the policy. A
well-formed store stays well formed.

`Routine` is a preorder, so an operation is routine when each of its steps is, from the engine it
starts in. The lemmas below go through the registry in the order of its definitions: the reads,
the writes of the store, the lock, the generic `update`, and then each operation.
-/

namespace Rebill

/-- The change of a payment's status that an event announces, with its payment; `none` for a
change of an attempt. -/
def BillingEvent.statusChange? : BillingEvent → Option (Ident × PaymentStatus × PaymentStatus × Bool)
  | .paymentStatusChanged p o n b => some (p, o, n, b)
  | .chargeStateChanged _ _ _ => none

namespace Engine

/-- The changes of payment status that the recorder kept, in order. -/
def statusChanges (e : Engine) : List (Ident × PaymentStatus × PaymentStatus × Bool) :=
  e.recorded.events.filterMap BillingEvent.statusChange?

/-- What a routine operation of the registry does to the engine. -/
structure Routine (e e' : Engine) : Prop where
  now : e'.now = e.now
  policy : e'.policy = e.policy
  gateways : e'.gateways = e.gateways
  outlets : e'.outlets = e.outlets
  held : e'.held = e.held
  payments : e'.store.payments = e.store.payments
  audit : e'.store.audit = e.store.audit
  statusChanges : e'.statusChanges = e.statusChanges
  messages : e'.recorded.messages = e.recorded.messages
  charges : e'.journal.charges = e.journal.charges
  rows : ∀ x r, e.store.row? x = some r → ∃ r', e'.store.row? x = some r' ∧ r.charge.Evolves r'.charge
  wf : e.store.Wf → e'.store.Wf

namespace Routine

@[refl] theorem refl (e : Engine) : Routine e e where
  now := rfl
  policy := rfl
  gateways := rfl
  outlets := rfl
  held := rfl
  payments := rfl
  audit := rfl
  statusChanges := rfl
  messages := rfl
  charges := rfl
  rows := fun _ r hr => ⟨r, hr, Charge.Evolves.refl _⟩
  wf := id

theorem trans {e₁ e₂ e₃ : Engine} (h₁ : Routine e₁ e₂) (h₂ : Routine e₂ e₃) : Routine e₁ e₃ where
  now := h₂.now.trans h₁.now
  policy := h₂.policy.trans h₁.policy
  gateways := h₂.gateways.trans h₁.gateways
  outlets := h₂.outlets.trans h₁.outlets
  held := h₂.held.trans h₁.held
  payments := h₂.payments.trans h₁.payments
  audit := h₂.audit.trans h₁.audit
  statusChanges := h₂.statusChanges.trans h₁.statusChanges
  messages := h₂.messages.trans h₁.messages
  charges := h₂.charges.trans h₁.charges
  rows := fun x r hr =>
    let ⟨r₂, hr₂, hev₂⟩ := h₁.rows x r hr
    let ⟨r₃, hr₃, hev₃⟩ := h₂.rows x r₂ hr₂
    ⟨r₃, hr₃, hev₂.trans hev₃⟩
  wf := h₂.wf ∘ h₁.wf

instance : Std.Refl Routine := ⟨refl⟩
instance : IsTrans Engine Routine := ⟨fun _ _ _ => trans⟩

/-! ### The steps that are routine -/

theorem tally (e : Engine) (c : Counter) : Routine e (e.tally c) :=
  ⟨rfl, rfl, rfl, rfl, rfl, rfl, rfl, rfl, rfl, rfl, fun _ r hr => ⟨r, hr, .refl _⟩, id⟩

theorem announce (e : Engine) (x : Ident) (o n : ChargeState) (op : String) :
    Routine e (e.announce (.chargeStateChanged x o n) op) :=
  { now := by simp
    policy := by simp
    gateways := by simp
    outlets := by simp
    held := by simp
    payments := by simp
    audit := by simp
    statusChanges := by
      unfold Engine.statusChanges
      rw [announce_events]
      split <;> simp [BillingEvent.statusChange?]
    messages := by simp
    charges := by simp
    rows := fun _ r hr => ⟨r, by simpa using hr, Charge.Evolves.refl _⟩
    wf := by simp }

theorem setStore {e : Engine} {s : Store} (hp : s.payments = e.store.payments)
    (ha : s.audit = e.store.audit)
    (hrows : ∀ x r, e.store.row? x = some r → ∃ r', s.row? x = some r' ∧ r.charge.Evolves r'.charge)
    (hwf : e.store.Wf → s.Wf) : Routine e { e with store := s } :=
  { refl e with payments := hp, audit := ha, rows := hrows, wf := hwf }

theorem saveCharge {e : Engine} {c c' v : Charge} {t : Instant} {s' : Store}
    (hc : e.store.charge? c'.id = some c) (hev : c.Evolves c')
    (h : e.store.saveCharge c' t = .ok (v, s')) : Routine e { e with store := s' } := by
  obtain ⟨row, hrow, heq⟩ := (Store.saveCharge_eq_ok e.store).mp h
  cases heq
  obtain ⟨row₀, hrow₀, rfl⟩ := (Store.charge?_eq_some e.store).mp hc
  have hsame : row₀ = row := Option.some.inj (hrow₀.symm.trans hrow)
  subst hsame
  refine setStore rfl rfl (fun x r hr => ?_) fun hwf => hwf.saveCharge h
  rw [Store.row?_modifyFirst e.store hrow (row₀.charge.savedOver c' t) rfl]
  by_cases hx : c'.id = x
  · subst hx
    have hr' : r = row₀ := Option.some.inj (hr.symm.trans hrow)
    subst hr'
    exact ⟨_, if_pos rfl, hev.savedOver_withToken t⟩
  · exact ⟨r, by rw [if_neg hx]; exact hr, .refl _⟩

theorem createCharge {e : Engine} {d : ChargeDraft} {t : Instant} {c : Charge} {s' : Store}
    (h : e.store.createCharge d t = .ok (c, s')) : Routine e { e with store := s' } := by
  obtain ⟨m, -, -, heq⟩ := (Store.createCharge_eq_ok e.store).mp h
  cases heq
  refine setStore rfl rfl (fun x r hr => ⟨r, ?_, .refl _⟩) fun hwf => hwf.createCharge h
  rw [Store.row?_append e.store rfl, hr, Option.some_or]

theorem findOrCreateMethod (e : Engine) (user : Ident) (gateway token : String) (t : Instant) :
    Routine e { e with store := (e.store.findOrCreateMethod user gateway token t).2 } := by
  refine setStore ?_ ?_ (fun x r hr => ⟨r, ?_, .refl _⟩) fun hwf => hwf.findOrCreateMethod _ _ _ _ <;>
    unfold Store.findOrCreateMethod <;> split
  all_goals first | rfl | exact hr

theorem setMethodExpiry {e : Engine} {id : Ident} {d : Date} {s' : Store}
    (h : e.store.setMethodExpiry id d = .ok s') : Routine e { e with store := s' } := by
  have hwf' := fun (hwf : e.store.Wf) => hwf.setMethodExpiry h
  unfold Store.setMethodExpiry at h
  split at h
  · cases h
  · cases h
    exact setStore rfl rfl (fun x r hr => ⟨r, hr, .refl _⟩) hwf'

theorem keepsAt_stored_saveCharge {e : Engine} {c c' : Charge} {t : Instant}
    (hc : e.store.charge? c'.id = some c) (hev : c.Evolves c') :
    Svc.KeepsAt Routine (Svc.stored (e.store.saveCharge c' t)) e :=
  Svc.keepsAt_stored_of e fun _ _ hs => saveCharge hc hev hs

theorem keepsAt_stored_createCharge {e : Engine} {d : ChargeDraft} {t : Instant} :
    Svc.KeepsAt Routine (Svc.stored (e.store.createCharge d t)) e :=
  Svc.keepsAt_stored_of e fun _ _ hs => createCharge hs

theorem keepsAt_withLock {α : Type} {key : String} {body : Svc α} {e : Engine}
    (h : Svc.KeepsAt Routine body { e with held := key :: e.held }) :
    Svc.KeepsAt Routine (Svc.withLock key body) e := by
  intro r e' hexec
  rw [Svc.exec_withLock] at hexec
  split at hexec
  · cases hexec
    exact refl e
  · rcases hbody : body.exec { e with held := key :: e.held } with o | ⟨r₁, e₁⟩ <;>
      simp only [hbody] at hexec
    · cases hexec
    · cases hexec
      have hR := h _ _ hbody
      exact { hR with held := by simp [hR.held] }

end Routine

end Engine

/-- The engine after `update` saved the attempt `id` as `v` in the store `s`: a change of
state, from `old`, is announced. -/
def Engine.afterUpdate (e : Engine) (id : Ident) (old : ChargeState) (v : Charge) (s : Store) :
    Engine :=
  if old != v.state then { e with store := s }.announce (.chargeStateChanged id old v.state) "transition"
  else { e with store := s }

namespace Engine

variable (e : Engine) (id : Ident) (old : ChargeState) (v : Charge) (s : Store)

@[simp] theorem afterUpdate_store : (e.afterUpdate id old v s).store = s := by
  unfold afterUpdate; split <;> simp
@[simp] theorem afterUpdate_held : (e.afterUpdate id old v s).held = e.held := by
  unfold afterUpdate; split <;> simp
@[simp] theorem afterUpdate_now : (e.afterUpdate id old v s).now = e.now := by
  unfold afterUpdate; split <;> simp
@[simp] theorem afterUpdate_policy : (e.afterUpdate id old v s).policy = e.policy := by
  unfold afterUpdate; split <;> simp
@[simp] theorem afterUpdate_charges :
    (e.afterUpdate id old v s).journal.charges = e.journal.charges := by
  unfold afterUpdate; split <;> simp

end Engine

namespace Attempts

open Svc Engine

theorem exec_get (id : Ident) (e : Engine) :
    (get id).exec e = match e.store.charge? id with
      | some c => .ok (.ok c, e)
      | none => .ok (.error (.notFound ("Recurrent charge " ++ id.text)), e) := by
  unfold get
  simp only [exec_bind, exec_store]
  cases e.store.charge? id <;> rfl

theorem exec_payment (id : Ident) (e : Engine) :
    (payment id).exec e = match e.store.payment? id with
      | some p => .ok (.ok p, e)
      | none => .ok (.error (.notFound ("Payment " ++ id.text)), e) := by
  unfold payment
  simp only [exec_bind, exec_store]
  cases e.store.payment? id <;> rfl

theorem finishes_get (id : Ident) (e : Engine) : Finishes (get id) e := by
  rw [Finishes, exec_get]
  split <;> exact ⟨_, _, rfl⟩

theorem finishes_payment (id : Ident) (e : Engine) : Finishes (payment id) e := by
  rw [Finishes, exec_payment]
  split <;> exact ⟨_, _, rfl⟩

/-- A change for `update`: it reads the engine without writing it, and whatever it returns
evolved from the attempt it was given. -/
def Change (change : Charge → Svc Charge) : Prop := ∀ c, Reads (change c) c.Evolves

variable {change : Charge → Svc Charge} {P : Charge → Charge → Prop}

theorem updateLocked_cases_at {id : Ident} {e e' : Engine}
    (hch : ∀ c r₁ e₁, (change c).exec e = .ok (r₁, e₁) → e₁ = e ∧ ∀ c', r₁ = .ok c' → P c c')
    {r : Except BillingError (ChargeState × Charge)}
    (h : (updateLocked id change).exec e = .ok (r, e')) :
    (e' = e ∧ ∃ err, r = .error err) ∨
      ∃ c c' v s', e.store.charge? id = some c ∧ P c c' ∧
        e.store.saveCharge c' e.now = .ok (v, s') ∧ r = .ok (c.state, v) ∧
        e' = { e with store := s' } := by
  unfold updateLocked at h
  rw [exec_bind, exec_get] at h
  cases hc : e.store.charge? id with
  | none =>
    simp only [hc] at h
    cases h
    exact .inl ⟨rfl, _, rfl⟩
  | some c =>
    simp only [hc] at h
    rw [exec_bind] at h
    rcases hchg : (change c).exec e with o | ⟨r₁, e₁⟩
    · simp [hchg] at h
    · obtain ⟨he, hres⟩ := hch c r₁ e₁ hchg
      subst e₁
      cases r₁ with
      | error err =>
        simp only [hchg] at h
        cases h
        exact .inl ⟨rfl, err, rfl⟩
      | ok c' =>
        simp only [hchg, exec_bind, exec_store, exec_now, exec_stored] at h
        rcases hs : e.store.saveCharge c' e.now with f | ⟨v, s'⟩ <;> simp only [hs] at h
        · cases h
          exact .inl ⟨rfl, _, rfl⟩
        · cases h
          exact .inr ⟨c, c', v, s', rfl, hres c' rfl, hs, rfl, rfl⟩

theorem updateLocked_cases (hch : ∀ c, Reads (change c) (P c)) {id : Ident} {e e' : Engine}
    {r : Except BillingError (ChargeState × Charge)}
    (h : (updateLocked id change).exec e = .ok (r, e')) :
    (e' = e ∧ ∃ err, r = .error err) ∨
      ∃ c c' v s', e.store.charge? id = some c ∧ P c c' ∧
        e.store.saveCharge c' e.now = .ok (v, s') ∧ r = .ok (c.state, v) ∧
        e' = { e with store := s' } :=
  updateLocked_cases_at (fun c => hch c e) h

theorem update_cases_at {id : Ident} {e e' : Engine}
    (hch : ∀ c r₁ e₁, (change c).exec { e with held := chargeKey id :: e.held } = .ok (r₁, e₁) →
      e₁ = { e with held := chargeKey id :: e.held } ∧ ∀ c', r₁ = .ok c' → P c c')
    {r : Except BillingError Charge} (h : (update id change).exec e = .ok (r, e')) :
    e' = e ∨ ∃ c c' v s', e.store.charge? id = some c ∧ P c c' ∧
      e.store.saveCharge c' e.now = .ok (v, s') ∧ r = .ok v ∧
      e' = e.afterUpdate id c.state v s' := by
  unfold update at h
  rw [exec_bind] at h
  rcases hl : (withLock (chargeKey id) (updateLocked id change)).exec e with o | ⟨r₀, e₀⟩ <;>
    rw [hl] at h
  · cases h
  rcases withLock_cases hl with ⟨-, rfl, rfl⟩ | ⟨-, e₁, hbody, rfl⟩
  · cases h
    exact .inl rfl
  rcases updateLocked_cases_at hch hbody with ⟨rfl, err, rfl⟩ | ⟨c, c', v, s', hc, hP, hs, rfl, rfl⟩
  · cases h
    exact .inl (by simp)
  · refine .inr ⟨c, c', v, s', hc, hP, hs, ?_⟩
    simp only [List.erase_cons_head] at h
    unfold Engine.afterUpdate
    split at h <;> simp_all [exec_map]

theorem update_cases (hch : ∀ c, Reads (change c) (P c)) {id : Ident} {e e' : Engine}
    {r : Except BillingError Charge} (h : (update id change).exec e = .ok (r, e')) :
    e' = e ∨ ∃ c c' v s', e.store.charge? id = some c ∧ P c c' ∧
      e.store.saveCharge c' e.now = .ok (v, s') ∧ r = .ok v ∧
      e' = e.afterUpdate id c.state v s' :=
  update_cases_at (fun c => hch c _) h

theorem updateLocked_ok {id : Ident} {e : Engine} {c c' v : Charge} {s' : Store}
    (hc : e.store.charge? id = some c) (hch : (change c).exec e = .ok (.ok c', e))
    (hs : e.store.saveCharge c' e.now = .ok (v, s')) :
    (updateLocked id change).exec e = .ok (.ok (c.state, v), { e with store := s' }) := by
  unfold updateLocked
  have hget : (get id).exec e = .ok (.ok c, e) := by rw [exec_get, hc]
  have hst : (stored (e.store.saveCharge c' e.now)).exec e = .ok (.ok v, { e with store := s' }) := by
    rw [exec_stored, hs]
  rw [exec_bind_ok hget, exec_bind_ok hch, exec_bind_ok (exec_store e), exec_bind_ok (exec_now e),
    exec_bind_ok hst]
  rfl

theorem update_ok {id : Ident} {e : Engine} {c c' v : Charge} {s' : Store}
    (hkey : chargeKey id ∉ e.held) (hc : e.store.charge? id = some c)
    (hch : (change c).exec { e with held := chargeKey id :: e.held } =
      .ok (.ok c', { e with held := chargeKey id :: e.held }))
    (hs : e.store.saveCharge c' e.now = .ok (v, s')) :
    (update id change).exec e = .ok (.ok v, e.afterUpdate id c.state v s') := by
  unfold update
  have hl : (withLock (chargeKey id) (updateLocked id change)).exec e =
      .ok (.ok (c.state, v), { e with store := s' }) := by
    have hlk : (updateLocked id change).exec { e with held := chargeKey id :: e.held } =
        .ok (.ok (c.state, v), { e with held := chargeKey id :: e.held, store := s' }) :=
      updateLocked_ok hc hch hs
    rw [exec_withLock, if_neg hkey, hlk]
    simp
  rw [exec_bind_ok hl]
  unfold Engine.afterUpdate
  by_cases hne : (c.state != v.state) = true
  · simp only [hne, if_true, exec_bind, exec_emit, exec_pure]
  · simp only [hne, Bool.false_eq_true, if_false, exec_pure]

theorem update_routine (hch : Change change) (id : Ident) (e : Engine) :
    KeepsAt Routine (update id change) e := by
  intro r e' h
  rcases update_cases hch h with rfl | ⟨c, c', v, s', hc, hev, hs, -, rfl⟩
  · exact .refl _
  · have hc' : e.store.charge? c'.id = some c := by
      rw [hev.id, Store.id_of_charge? e.store hc, hc]
    have hsaved := Routine.saveCharge hc' hev hs
    unfold Engine.afterUpdate
    split
    · exact hsaved.trans (Routine.announce _ _ _ _ _)
    · exact hsaved

theorem transition_change (t : ChargeState) (actor : Actor) (u : ChargeUpdate) :
    Change fun c => if c.state.allows t actor then pure (c.moveTo t u)
      else throw (.illegalTransition c.state t) :=
  fun c => reads_ite (fun h => reads_pure (c.evolves_moveTo h u)) fun _ => reads_throw _

theorem linkPayment_change (p : Ident) :
    Change fun c => pure (if c.payment.isNone then { c with payment := some p } else c) := by
  intro c
  refine reads_pure ?_
  split
  · exact c.evolves_link p
  · exact .refl c

theorem rearmFailed_change (delay : Span) : Change (fun c => do
    if c.state != .chargeFailed then throw (.illegalTransition c.state .active)
    if c.retries ≤ 0 then pure (c.pushNote "Retries exhausted")
    else
      let due ← time (shiftBy (← now) delay)
      let c := { c with retries := c.retries - 1, state := .active, chargeAt := due, status := none }
      pure (c.pushNote ("Retry scheduled, " ++ toString c.retries ++ " left"))) := by
  intro c
  refine reads_ite (fun _ => reads_throw_bind _) fun hstate =>
    reads_ite (fun _ => reads_pure (c.evolves_pushNote _)) fun hretries => ?_
  have hfailed : c.state = .chargeFailed := by simpa using hstate
  exact reads_bind reads_now fun _ _ => reads_bind (reads_time _) fun due _ =>
    reads_pure ((c.evolves_rearm hfailed (by omega) due).trans (Charge.evolves_pushNote _ _))

section Updates

/-! The moves of the registry made through `update`, for any preorder that every update with a
change keeps. -/

variable {R : Engine → Engine → Prop} [Std.Refl R] [IsTrans Engine R]
  (hupdate : ∀ id change e, Change change → KeepsAt R (update id change) e)
include hupdate

omit [Std.Refl R] [IsTrans Engine R] in
theorem keepsAt_transition (id : Ident) (t : ChargeState) (actor : Actor) (u : ChargeUpdate)
    (e : Engine) : KeepsAt R (transition id t actor u) e :=
  hupdate id _ e (transition_change t actor u)

theorem keepsAt_linkPayment (id p : Ident) (e : Engine) : KeepsAt R (linkPayment id p) e :=
  keepsAt_bind (hupdate id _ e (linkPayment_change p)) fun _ _ _ => keepsAt_pure _

omit [Std.Refl R] [IsTrans Engine R] in
theorem keepsAt_rearmFailed (id : Ident) (e : Engine) : KeepsAt R (rearmFailed id) e :=
  keepsAt_bind_read (exec_policy e) (hupdate id _ e (rearmFailed_change _))

end Updates

theorem transition_routine (id : Ident) (t : ChargeState) (actor : Actor) (u : ChargeUpdate)
    (e : Engine) : KeepsAt Routine (transition id t actor u) e :=
  keepsAt_transition (fun id _ e h => update_routine h id e) id t actor u e

theorem exec_transition {id : Ident} {t : ChargeState} {actor : Actor} {u : ChargeUpdate}
    {e : Engine} {c v : Charge} {s' : Store} (hkey : chargeKey id ∉ e.held)
    (hc : e.store.charge? id = some c) (ha : c.state.allows t actor = true)
    (hs : e.store.saveCharge (c.moveTo t u) e.now = .ok (v, s')) :
    (transition id t actor u).exec e = .ok (.ok v, e.afterUpdate id c.state v s') := by
  refine update_ok hkey hc ?_ hs
  simp only [ha, if_true]
  rfl

theorem transition_ok {id : Ident} {t : ChargeState} {actor : Actor} {u : ChargeUpdate}
    {e : Engine} {c : Charge} (hkey : chargeKey id ∉ e.held) (hc : e.store.charge? id = some c)
    (ha : c.state.allows t actor = true) :
    ∃ v s', e.store.saveCharge (c.moveTo t u) e.now = .ok (v, s') ∧
      (transition id t actor u).exec e = .ok (.ok v, e.afterUpdate id c.state v s') := by
  obtain ⟨v, s', hs⟩ := Store.saveCharge_of_charge? e.store hc
    (show (c.moveTo t u).id = id by rw [Charge.moveTo_id, Store.id_of_charge? e.store hc]) e.now
  exact ⟨v, s', hs, exec_transition hkey hc ha hs⟩

theorem linkPayment_routine (id p : Ident) (e : Engine) :
    KeepsAt Routine (linkPayment id p) e :=
  keepsAt_linkPayment (fun id _ e h => update_routine h id e) id p e

theorem rearmFailed_routine (id : Ident) (e : Engine) : KeepsAt Routine (rearmFailed id) e :=
  keepsAt_rearmFailed (fun id _ e h => update_routine h id e) id e

theorem reads_get (id : Ident) : Reads (get id) fun _ => True :=
  reads_bind reads_store fun s _ => by
    split
    · exact reads_pure trivial
    · exact reads_throw _

theorem reads_payment (id : Ident) : Reads (payment id) fun _ => True :=
  reads_bind reads_store fun s _ => by
    split
    · exact reads_pure trivial
    · exact reads_throw _

theorem reads_canBeStopped (c : Charge) : Reads (canBeStopped c) fun _ => True := by
  unfold canBeStopped
  refine reads_bind (reads_payment _) fun parent _ => reads_bind reads_gateways fun gs _ => ?_
  simp only
  split
  · exact reads_ite (fun _ => reads_pure trivial) fun _ => reads_pure trivial
  · exact reads_pure trivial

theorem reads_canBeStoppedByUser (c : Charge) : Reads (canBeStoppedByUser c) fun _ => True := by
  unfold canBeStoppedByUser
  refine reads_bind (reads_canBeStopped c) fun b _ => ?_
  refine reads_ite (fun _ => reads_pure trivial) fun _ => ?_
  exact reads_bind (reads_payment _) fun _ _ => reads_bind reads_gateways fun _ _ => reads_pure trivial

theorem reads_isEffectivelyStopped (c : Charge) : Reads (isEffectivelyStopped c) fun _ => True := by
  unfold isEffectivelyStopped
  refine reads_ite (fun _ => reads_pure trivial) fun _ => reads_ite (fun _ => reads_pure trivial)
    fun _ => reads_bind reads_store fun _ _ => reads_pure trivial

theorem reads_chargeable (ids : Option (List Ident)) : Reads (chargeable ids) fun _ => True :=
  reads_bind reads_now fun _ _ => reads_bind reads_policy fun _ _ =>
    reads_bind (reads_time _) fun _ _ => reads_bind reads_store fun _ _ =>
      reads_bind reads_shuffle fun _ _ => reads_pure trivial

theorem chargeable_cases {ids : Option (List Ident)} {e e' : Engine}
    {r : Except BillingError (List Charge)} (h : (chargeable ids).exec e = .ok (r, e')) :
    e' = e ∧ ∃ due, shiftBy e.now e.policy.lookahead = .ok due ∧
      r = .ok (e.store.findChargeable e.shuffle due ids) := by
  unfold chargeable at h
  rw [exec_bind_ok (exec_now e), exec_bind_ok (exec_policy e)] at h
  rcases exec_bind_eq_ok h with ⟨err, ht, -⟩ | ⟨due, e₁, ht, hrest⟩
  · rcases hdue : shiftBy e.now e.policy.lookahead with o | d <;> rw [hdue, exec_time] at ht <;>
      cases ht
  · have hdue : shiftBy e.now e.policy.lookahead = .ok due ∧ e₁ = e := by
      rcases hdue : shiftBy e.now e.policy.lookahead with o | d <;> rw [hdue, exec_time] at ht <;>
        cases ht
      exact ⟨rfl, rfl⟩
    obtain ⟨hdue, rfl⟩ := hdue
    rw [exec_bind_ok (exec_store e₁), exec_bind_ok (exec_shuffle e₁), exec_pure] at hrest
    obtain ⟨hr, he⟩ := Prod.mk.inj (Except.ok.inj hrest)
    exact ⟨he.symm, due, hdue, hr.symm⟩

theorem exec_chargeable_of {e : Engine} {due : Instant}
    (hdue : shiftBy e.now e.policy.lookahead = .ok due) (ids : Option (List Ident)) :
    (chargeable ids).exec e = .ok (.ok (e.store.findChargeable e.shuffle due ids), e) := by
  unfold chargeable
  rw [exec_bind_ok (exec_now e), exec_bind_ok (exec_policy e), exec_bind_time hdue,
    exec_bind_ok (exec_store e), exec_bind_ok (exec_shuffle e), exec_pure]

theorem reads_previousCharged (c : Charge) : Reads (previousCharged c) fun _ => True :=
  reads_bind reads_store fun _ _ => reads_pure trivial

theorem claim_cases {id : Ident} {e e' : Engine} {r : Except BillingError (Option Charge)}
    (h : (claim id).exec e = .ok (r, e')) :
    (e' = e ∧ ∀ v, r ≠ .ok (some v)) ∨
      ∃ c v s', e.store.charge? id = some c ∧ c.state = .active ∧ c.status = none ∧
        e.store.saveCharge { c with status := some inFlight } e.now = .ok (v, s') ∧
        r = .ok (some v) ∧ e' = { e with store := s' } := by
  unfold claim at h
  rcases withLock_cases h with ⟨-, rfl, rfl⟩ | ⟨-, e₁, hbody, rfl⟩
  · exact .inl ⟨rfl, fun v hv => by cases hv⟩
  -- the body runs with the key held; naming that engine keeps its terms small
  generalize hE : { e with held := chargeKey id :: e.held } = e₀ at hbody
  rcases exec_bind_eq_ok hbody with ⟨err, hget, rfl⟩ | ⟨c, e₂, hget, hrest⟩
  · rw [exec_get] at hget
    split at hget <;> cases hget
    subst hE
    exact .inl ⟨by simp, fun v hv => by cases hv⟩
  rw [exec_get] at hget
  split at hget
  · next c₀ hc =>
    cases hget
    have h₀ := exec_bind_read (exec_now e₀) hrest
    have h₁ := exec_bind_read (exec_policy e₀) h₀
    rcases exec_bind_eq_ok h₁ with ⟨err, htime, rfl⟩ | ⟨due, e₃, htime, h₂⟩
    · rw [exec_time] at htime
      split at htime <;> cases htime
    rw [exec_time] at htime
    split at htime <;> cases htime
    split at h₂
    · cases h₂
      subst hE
      exact .inl ⟨by simp, fun v hv => by cases hv⟩
    rename_i hcond
    have h₃ := exec_bind_read (exec_store e₀) h₂
    have h₄ := exec_bind_read (exec_now e₀) h₃
    subst hE
    rw [exec_map, exec_stored] at h₄
    rcases hs : e.store.saveCharge { c with status := some inFlight } e.now with f | ⟨v, s'⟩ <;>
      simp only [hs] at h₄
    · cases h₄
      exact .inl ⟨by simp, fun v hv => by cases hv⟩
    · cases h₄
      simp only [Bool.or_eq_true, bne_iff_ne, ne_eq, Option.isSome_iff_ne_none, not_or,
        Decidable.not_not] at hcond
      exact .inr ⟨c, v, s', by simpa using hc, hcond.1.1, hcond.1.2, hs, rfl, by simp⟩
  · cases hget

theorem claim_routine (id : Ident) (e : Engine) : KeepsAt Routine (claim id) e := by
  intro r e' h
  rcases claim_cases h with ⟨rfl, -⟩ | ⟨c, v, s', hc, -, -, hs, -, rfl⟩
  · exact .refl _
  · have hid : ({ c with status := some inFlight } : Charge).id = id :=
      show c.id = id from Store.id_of_charge? e.store hc
    exact Routine.saveCharge (hid ▸ hc) (c.evolves_claim inFlight) hs

theorem registerMethod_routine (user : Ident) (gateway token : String) (e : Engine) :
    KeepsAt Routine (registerMethod user gateway token) e := by
  unfold registerMethod
  refine keepsAt_bind_read (exec_store e) (keepsAt_bind_read (exec_now e) ?_)
  exact keepsAt_bind (keepsAt_of_exec (exec_setStore _ _) (Routine.findOrCreateMethod _ _ _ _ _))
    fun _ _ _ => keepsAt_pure _

theorem updateMethodExpiry_routine (method : Ident) (d : Date) (e : Engine) :
    KeepsAt Routine (updateMethodExpiry method d) e := by
  unfold updateMethodExpiry
  refine keepsAt_bind_read (exec_store e) ?_
  split
  · exact keepsAt_of_exec (exec_setStore _ _) (Routine.setMethodExpiry ‹_›)
  · exact keepsAt_throw _

theorem createAttemptFrom_routine (d : ChargeDraft) (e : Engine) :
    KeepsAt Routine (createAttemptFrom d) e := by
  refine Routine.keepsAt_withLock ?_
  unfold insertUnlessExists
  refine keepsAt_bind_read (exec_store _) ?_
  split
  · exact keepsAt_pure _
  · exact keepsAt_bind_read (exec_store _) (keepsAt_bind_read (exec_now _)
      Routine.keepsAt_stored_createCharge)

theorem createAttempt_routine (method parent : Ident) (chargeAt : Instant)
    (customAmount : Option Decimal) (retries : Option Int) (e : Engine) :
    KeepsAt Routine (createAttempt method parent chargeAt customAmount retries) e :=
  keepsAt_bind_read (exec_policy e) (createAttemptFrom_routine _ e)

theorem scheduleNext_routine (charged : Charge) (sub : Option Subscription) (terms : Terms)
    (e : Engine) : KeepsAt Routine (scheduleNext charged sub terms) e := by
  unfold scheduleNext
  simp only
  refine keepsAt_ite_throw ?_
  split
  · refine keepsAt_bind (reads_payment _).keepsAt fun p e₁ _ => ?_
    refine keepsAt_bind_read (exec_policy e₁) (keepsAt_bind_read (exec_now e₁) ?_)
    split
    · exact keepsAt_bind_read (exec_pure _ _) (createAttemptFrom_routine _ _)
    · exact keepsAt_throw_bind _
    · exact keepsAt_stop_bind _ _
  · exact keepsAt_throw _

theorem stopByUser_routine (id : Ident) (e : Engine) : KeepsAt Routine (stopByUser id) e := by
  unfold stopByUser
  refine keepsAt_bind (reads_get id).keepsAt fun c e₁ _ => ?_
  refine keepsAt_bind (reads_canBeStoppedByUser c).keepsAt fun b e₂ _ => ?_
  simp only
  exact keepsAt_ite_throw (transition_routine _ _ _ _ e₂)

theorem stopByAdmin_routine (id : Ident) (reason : String) (e : Engine) :
    KeepsAt Routine (stopByAdmin id reason) e := by
  unfold stopByAdmin
  refine keepsAt_bind (reads_get id).keepsAt fun c e₁ _ => ?_
  refine keepsAt_bind (reads_canBeStopped c).keepsAt fun b e₂ _ => ?_
  simp only
  exact keepsAt_ite_throw (transition_routine _ _ _ _ e₂)

theorem reactivateByUser_change (c : Charge) : Reads (do
    if c.state != .userStop then
      throw (.reactivationUnavailable
        ("attempt " ++ c.id.text ++ " is " ++ c.state.name ++ ", not user_stop"))
    if c.chargeAt ≤ (← now) then
      throw (.reactivationUnavailable ("attempt " ++ c.id.text ++ " was due at " ++ c.chargeAt.display))
    pure ({ c with state := .active }.pushNote "Reactivated by user"))
    (fun c' => c.state = .userStop ∧ c' = ({ c with state := .active }.pushNote "Reactivated by user")) := by
  by_cases hstate : c.state = .userStop
  · exact reads_ite_throw (reads_bind reads_now fun _ _ => reads_ite_throw (reads_pure ⟨hstate, rfl⟩))
  · simp only [hstate, bne_iff_ne, ne_eq, not_false_eq_true, if_true]
    exact reads_throw_bind _

theorem reactivateByUser_routine (id : Ident) (e : Engine) :
    KeepsAt Routine (reactivateByUser id) e := by
  unfold reactivateByUser
  refine keepsAt_bind (reads_get id).keepsAt fun c e₁ _ => ?_
  refine keepsAt_bind (reads_canBeStoppedByUser c).keepsAt fun b e₂ _ => ?_
  simp only
  refine keepsAt_ite_throw (update_routine (fun c => (reactivateByUser_change c).mono ?_) id e₂)
  rintro _ ⟨hstate, rfl⟩
  exact (c.evolves_reactivate hstate).trans (Charge.evolves_pushNote _ "Reactivated by user")

theorem reactivateLocked_routine (id : Ident) (e : Engine) :
    KeepsAt Routine (reactivateLocked id) e := by
  unfold reactivateLocked
  refine keepsAt_bind_read (exec_now e) (keepsAt_bind_read (exec_policy e) ?_)
  refine keepsAt_bind (reads_get id).keepsAt fun stopped e₁ hget => ?_
  have he₁ : e₁ = e := ((reads_get id) e _ _ hget).1
  subst he₁
  have hc : e₁.store.charge? stopped.id = some stopped := by
    rw [exec_get] at hget
    split at hget
    · next c hc =>
      cases hget
      rw [Store.id_of_charge? e₁.store hc, hc]
    · cases hget
  simp only
  refine keepsAt_ite_throw (keepsAt_ite_throw ?_)
  refine keepsAt_bind (reads_time _).keepsAt fun windowStart e₂ hwin => ?_
  have he₂ : e₂ = e₁ := ((reads_time _) e₁ _ _ hwin).1
  subst he₂
  refine keepsAt_ite_throw ?_
  refine keepsAt_bind_read (exec_store _) ?_
  -- both ways past the last guard go on with the same rest: make the fresh attempt, then note it
  -- on the stopped one
  split
  on_goal 1 => refine keepsAt_ite_throw ?_
  all_goals
    refine keepsAt_bind (reads_time _).keepsAt fun due e₃ hdue => ?_
    have he₃ : e₃ = e₂ := ((reads_time _) e₂ _ _ hdue).1
    subst he₃
    refine keepsAt_bind_read (exec_store _) ?_
    refine keepsAt_bind Routine.keepsAt_stored_createCharge fun fresh e₄ hfresh => ?_
    rw [exec_stored] at hfresh
    split at hfresh
    · next hs =>
      cases hfresh
      refine keepsAt_bind_read (exec_store _) ?_
      exact keepsAt_bind (Routine.keepsAt_stored_saveCharge
        (Store.charge?_createCharge e₃.store hs hc) (stopped.evolves_pushNote _))
        fun _ _ _ => keepsAt_pure _
    · cases hfresh

theorem reactivateAfterSystemStop_routine (id : Ident) (e : Engine) :
    KeepsAt Routine (reactivateAfterSystemStop id) e := by
  unfold reactivateAfterSystemStop
  refine keepsAt_bind (reads_get id).keepsAt fun c e₁ _ => ?_
  refine keepsAt_bind (reads_canBeStopped c).keepsAt fun b e₂ _ => ?_
  simp only
  exact keepsAt_ite_throw (Routine.keepsAt_withLock (reactivateLocked_routine id _))

theorem releaseClaim_cases {id : Ident} {e e' : Engine} {r : Except BillingError Charge}
    (h : (releaseClaim id).exec e = .ok (r, e')) :
    e' = e ∨ ∃ c v s', e.store.charge? id = some c ∧
      e.store.saveCharge
        (if c.state == .active && c.status == some inFlight then { c with status := none } else c)
        e.now = .ok (v, s') ∧ r = .ok v ∧ e' = e.afterUpdate id c.state v s' := by
  rcases update_cases (P := fun c c' => c' = if c.state == .active && c.status == some inFlight
      then { c with status := none } else c) (fun c => reads_pure rfl) h with
    rfl | ⟨c, c', v, s', hc, rfl, hs, hr, rfl⟩
  · exact .inl rfl
  · exact .inr ⟨c, v, s', hc, hs, hr, rfl⟩

theorem giveBack_fields (c : Charge) (b : Bool) :
    (if b then { c with status := none } else c).id = c.id ∧
      (if b then { c with status := none } else c).state = c.state ∧
      (if b then { c with status := none } else c).retries = c.retries := by
  cases b <;> exact ⟨rfl, rfl, rfl⟩

theorem claim_ok {id : Ident} {e : Engine} {c : Charge} {due : Instant}
    (hkey : chargeKey id ∉ e.held) (hc : e.store.charge? id = some c)
    (hdue : shiftBy e.now e.policy.lookahead = .ok due) (hactive : c.state = .active)
    (hstatus : c.status = none) (hat : c.chargeAt ≤ due) :
    ∃ v s', e.store.saveCharge { c with status := some inFlight } e.now = .ok (v, s') ∧
      (claim id).exec e = .ok (.ok (some v), { e with store := s' }) := by
  obtain ⟨v, s', hs⟩ := Store.saveCharge_of_charge? e.store hc
    (show ({ c with status := some inFlight } : Charge).id = id from
      (Store.id_of_charge? e.store hc :)) e.now
  refine ⟨v, s', hs, ?_⟩
  generalize hE : { e with held := chargeKey id :: e.held } = e₀
  have hbody : (do
      let c ← get id
      let dueBefore ← time (shiftBy (← now) (← policy).lookahead)
      if c.state != .active || c.status.isSome || decide (c.chargeAt > dueBefore) then pure none
      else some <$> stored ((← store).saveCharge { c with status := some inFlight } (← now)) :
        Svc (Option Charge)).exec e₀ = .ok (.ok (some v), { e₀ with store := s' }) := by
    subst hE
    have hget : (get id).exec { e with held := chargeKey id :: e.held } =
        .ok (.ok c, { e with held := chargeKey id :: e.held }) := by
      rw [exec_get]
      simp [hc]
    rw [exec_bind_ok hget, exec_bind_ok (exec_now _), exec_bind_ok (exec_policy _)]
    have htime : (time (shiftBy e.now e.policy.lookahead)).exec
        { e with held := chargeKey id :: e.held } =
        .ok (.ok due, { e with held := chargeKey id :: e.held }) := by
      rw [exec_time, hdue]
    rw [exec_bind_ok htime]
    have hcond : (c.state != .active || c.status.isSome || decide (c.chargeAt > due)) = false := by
      simp only [hactive, hstatus, bne_self_eq_false, Option.isSome_none, Bool.or_self,
        Bool.false_or, decide_eq_false_iff_not, gt_iff_lt]
      exact Int.not_lt.mpr hat
    rw [if_neg (by simp [hcond]), exec_bind_ok (exec_store _), exec_bind_ok (exec_now _), exec_map,
      exec_stored]
    simp [hs]
  unfold claim
  rw [exec_withLock, if_neg hkey, hE, hbody]
  subst hE
  simp

end Attempts

end Rebill
