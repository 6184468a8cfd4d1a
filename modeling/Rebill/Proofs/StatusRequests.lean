import Rebill.Proofs.Resolution

/-!
# What one request for a change of status does

`Ledger.updateStatus` decides a request on a payment in one section under the payment's lock and
announces a change after it. This module states the whole run as one equation
(`Ledger.exec_updateStatus`) and reads the contract of the ledger off it:

* a lock held by another party fails the request at once, before the payment is looked at; with
  the lock free, a missing payment is not found; either way nothing changes;
* a request for the status the payment has, or to fail a paid payment, is declined: the answer is
  `false`, and only the counter of the decision rises;
* any other request goes through (`StatusRequest.applyTo`): the payment takes the status, a paid
  instant when a paid status is first reached, the note and the error message when the request
  gives them, and the instant of the change; no other entry of the store moves; the change is
  counted as applied and offered once to the sink and once to the queue.

Each decision on a payment that is found is counted once, under the target status, as `noop`,
`rejected` or `applied` (`Ledger.verdict`), and what the outlets do with the event and the message
changes neither the answer nor the store.
-/

namespace Rebill

/-! ## Counters as they are read -/

namespace Engine

def counted (e : Engine) (k : Counter) : Nat := (e.journal.counters.lookup k).getD 0

variable (e : Engine)

theorem counted_tally (c k : Counter) :
    (e.tally c).counted k = e.counted k + if k = c then 1 else 0 := by
  unfold counted tally
  rw [lookup_bump]
  by_cases hk : k = c
  · subst hk
    simp [Write.raise]
  · simp [Write.raise, hk]

theorem counted_announce_statusTransition (ev : BillingEvent) (op r : String) (t : PaymentStatus) :
    (e.announce ev op).counted (.statusTransition r t) = e.counted (.statusTransition r t) := by
  unfold announce
  split
  · split
    · simp [counted_tally]
    · rfl
  all_goals rfl

theorem counted_post_statusTransition (m : StatusMessage) (op r : String) (t : PaymentStatus) :
    (e.post m op).counted (.statusTransition r t) = e.counted (.statusTransition r t) := by
  unfold post
  split
  · split
    · simp [counted_tally]
    · rfl
  · rfl

theorem counted_afterStatusWrite (id : Ident) (old : PaymentStatus) (u : Ledger.StatusRequest)
    (s : Store) (r : String) (t : PaymentStatus) :
    (e.afterStatusWrite id old u s).counted (.statusTransition r t) =
      e.counted (.statusTransition r t) + if r = "applied" ∧ t = u.status then 1 else 0 := by
  unfold afterStatusWrite
  rw [counted_post_statusTransition, counted_announce_statusTransition, counted_tally]
  simp only [Counter.statusTransition.injEq]
  rfl

theorem afterStatusWrite_recorded (id : Ident) (old : PaymentStatus) (u : Ledger.StatusRequest)
    (s : Store) :
    (e.afterStatusWrite id old u s).recorded.events =
        e.recorded.events ++ (if e.heard then [.paymentStatusChanged id old u.status u.notify] else []) ∧
      (e.afterStatusWrite id old u s).recorded.messages =
        e.recorded.messages ++
          (if e.outlets.sink == .recording && !e.outlets.queueFails then [⟨id, u.notify⟩] else []) :=
  ⟨afterStatusWrite_events e id old u s, afterStatusWrite_messages e id old u s⟩

end Engine

namespace Ledger

open Svc Engine

/-! ## The decision -/

/-- The result the ledger counts a request on `p` under: `noop` for the status `p` has,
`rejected` for a fail of a paid payment, `applied` for every other request. -/
def verdict (p : Payment) (u : StatusRequest) : String :=
  if p.status = u.status then "noop"
  else if p.status.isPaidLike ∧ u.status = .fail then "rejected" else "applied"

theorem declines_eq_true_iff (p : Payment) (u : StatusRequest) :
    declines p u = true ↔ p.status = u.status ∨ p.status.isPaidLike ∧ u.status = .fail := by
  simp [declines]

theorem verdict_of_not_declines {p : Payment} {u : StatusRequest} (h : declines p u = false) :
    verdict p u = "applied" := by
  have h' : ¬(p.status = u.status ∨ p.status.isPaidLike ∧ u.status = .fail) := by
    rw [← declines_eq_true_iff, h]
    decide
  unfold verdict
  rw [if_neg (fun h₁ => h' (.inl h₁)), if_neg (fun h₂ => h' (.inr h₂))]

/-- The payment `p` after the request `u` went through at `t`: the requested status; a paid
instant, the requested one or `t`, only where a paid status is first reached; the note and the
error message only where the request gives them; `t` as the instant of the change; every other
field as it was. -/
def StatusRequest.applyTo (u : StatusRequest) (p : Payment) (t : Instant) : Payment :=
  { p with
    status := u.status
    paidAt := if u.status.isPaidLike ∧ p.paidAt = none then some (u.paidAt.getD t) else p.paidAt
    note := u.note.or p.note
    errorMessage := u.errorMessage.or p.errorMessage
    updated := t }

theorem write_writeOn (u : StatusRequest) (p : Payment) (t : Instant) :
    p.write (u.writeOn p t) t = u.applyTo p t := by
  cases hp : p.paidAt <;> cases hn : u.note <;> cases hm : u.errorMessage <;>
    simp [Payment.write, StatusRequest.writeOn, StatusRequest.applyTo, hp, hn, hm]

/-- The store after a request on its payment `p` went through at `t`: that payment replaced, every
other entry as it was. -/
def written (s : Store) (id : Ident) (u : StatusRequest) (p : Payment) (t : Instant) : Store :=
  { s with payments := modifyFirst (·.id) id (fun _ => u.applyTo p t) s.payments }

theorem write_status_store {e : Engine} {id : Ident} {p : Payment} (hp : e.store.payment? id = some p)
    (u : StatusRequest) : (e.write (.status id (u.writeOn p e.now))).store = written e.store id u p e.now := by
  simp only [Engine.write, written]
  congr 1
  exact modifyFirst_eq_of_find? _ hp (write_writeOn u p e.now)

theorem payment?_written {s : Store} {id : Ident} {p : Payment} (hp : s.payment? id = some p)
    (u : StatusRequest) (t : Instant) (x : Ident) :
    (written s id u p t).payment? x = if id = x then some (u.applyTo p t) else s.payment? x :=
  Store.payment?_modifyFirst s hp (u.applyTo p t) rfl x

theorem exec_applyLocked (id : Ident) (u : StatusRequest) (e : Engine) :
    (applyLocked id u).exec e = match e.store.payment? id with
      | none => .ok (.error (.notFound ("Payment " ++ id.text)), e)
      | some p =>
        if declines p u then .ok (.ok none, e.tally (.statusTransition (verdict p u) u.status))
        else .ok (.ok (some (p.status, u.status)),
          { e with store := written e.store id u p e.now }.tally
            (.statusTransition "applied" u.status)) := by
  unfold applyLocked
  rw [exec_bind, Attempts.exec_payment]
  cases hp : e.store.payment? id with
  | none => rfl
  | some p =>
    simp only
    by_cases h₁ : (p.status == u.status) = true
    · have hd : declines p u = true := by simp [declines, h₁]
      have hv : verdict p u = "noop" := by simp [verdict, beq_iff_eq.mp h₁]
      simp only [h₁, if_true, hd, hv]
      rfl
    have hne : p.status ≠ u.status := by simpa using h₁
    by_cases h₂ : (p.status.isPaidLike && u.status == .fail) = true
    · have hd : declines p u = true := by simp only [declines, h₂, Bool.or_true]
      have hv : verdict p u = "rejected" := by
        simp only [Bool.and_eq_true, beq_iff_eq] at h₂
        have hfail : p.status ≠ .fail := h₂.2 ▸ hne
        simp [verdict, hfail, h₂]
      simp only [h₁, h₂, Bool.false_eq_true, if_false, if_true, hd, hv]
      rfl
    have hd : declines p u = false := by
      simp only [declines, Bool.not_eq_true] at h₁ h₂ ⊢
      simp [h₁, h₂]
    -- the write cannot fail: the payment was just read
    have hs : e.store.savePaymentStatus id (u.writeOn p e.now) e.now =
        .ok (u.applyTo p e.now, written e.store id u p e.now) := by
      rw [Engine.savePaymentStatus_eq_write hp, write_status_store hp, write_writeOn]
    simp only [StatusRequest.writeOn] at hs
    simp only [h₁, h₂, Bool.false_eq_true, if_false, hd, exec_bind, exec_now, exec_store, exec_stored,
      hs, exec_count, exec_pure]
    rfl

theorem exec_updateStatus (id : Ident) (u : StatusRequest) (e : Engine) :
    (updateStatus id u).exec e =
      if paymentKey id ∈ e.held then
        .ok (.error (.lockTimeout (paymentKey id) e.policy.lockTimeoutMs), e)
      else match e.store.payment? id with
        | none => .ok (.error (.notFound ("Payment " ++ id.text)), e)
        | some p =>
          if declines p u then .ok (.ok false, e.tally (.statusTransition (verdict p u) u.status))
          else .ok (.ok true, e.afterStatusWrite id p.status u (written e.store id u p e.now)) := by
  unfold updateStatus
  rw [exec_bind, exec_withLock]
  by_cases hkey : paymentKey id ∈ e.held
  · simp [hkey]
  simp only [hkey, if_false, exec_applyLocked]
  -- the section reads the store and the clock with the key held, and giving the key back
  -- restores the locks as they were
  cases hp : e.store.payment? id with
  | none => simp
  | some p =>
    simp only
    by_cases hd : declines p u = true
    · simp only [hd, if_true]
      simp [Engine.tally]
    · simp only [hd, Bool.false_eq_true, if_false, exec_bind, exec_emit, exec_publish]
      simp [Engine.afterStatusWrite, Engine.tally]

/-! ## The contract -/

variable {id : Ident} {u : StatusRequest} {e : Engine}

theorem updateStatus_of_held (hkey : paymentKey id ∈ e.held) :
    (updateStatus id u).exec e = .ok (.error (.lockTimeout (paymentKey id) e.policy.lockTimeoutMs), e) := by
  rw [exec_updateStatus, if_pos hkey]

theorem updateStatus_of_missing (hkey : paymentKey id ∉ e.held) (hp : e.store.payment? id = none) :
    (updateStatus id u).exec e = .ok (.error (.notFound ("Payment " ++ id.text)), e) := by
  rw [exec_updateStatus, if_neg hkey, hp]

theorem updateStatus_of_declines {p : Payment} (hkey : paymentKey id ∉ e.held)
    (hp : e.store.payment? id = some p) (hd : declines p u = true) :
    (updateStatus id u).exec e = .ok (.ok false, e.tally (.statusTransition (verdict p u) u.status)) := by
  rw [exec_updateStatus, if_neg hkey, hp]
  simp only [hd, if_true]

theorem updateStatus_of_applies {p : Payment} (hkey : paymentKey id ∉ e.held)
    (hp : e.store.payment? id = some p) (hd : declines p u = false) :
    (updateStatus id u).exec e =
      .ok (.ok true, e.afterStatusWrite id p.status u (written e.store id u p e.now)) := by
  rw [exec_updateStatus, if_neg hkey, hp]
  simp only [hd, Bool.false_eq_true, if_false]

theorem counted_of_found {p : Payment} {e' : Engine} {b : Bool} (hkey : paymentKey id ∉ e.held)
    (hp : e.store.payment? id = some p) (h : (updateStatus id u).exec e = .ok (.ok b, e'))
    (r : String) (t : PaymentStatus) :
    e'.counted (.statusTransition r t) =
      e.counted (.statusTransition r t) + if r = verdict p u ∧ t = u.status then 1 else 0 := by
  cases hd : declines p u
  · rw [updateStatus_of_applies hkey hp hd] at h
    cases h
    rw [counted_afterStatusWrite, verdict_of_not_declines hd]
  · rw [updateStatus_of_declines hkey hp hd] at h
    cases h
    rw [counted_tally]
    simp only [Counter.statusTransition.injEq]

theorem updateStatus_outlets (id : Ident) (u : StatusRequest) (e : Engine) (o : Outlets) :
    ((updateStatus id u).exec { e with outlets := o }).map (fun x => (x.1, x.2.store)) =
      ((updateStatus id u).exec e).map (fun x => (x.1, x.2.store)) := by
  rw [exec_updateStatus, exec_updateStatus]
  by_cases hkey : paymentKey id ∈ e.held
  · simp [hkey, Except.map]
  cases hp : e.store.payment? id with
  | none => simp [hkey, Except.map]
  | some p =>
    cases hd : declines p u <;> simp [hkey, hd, Except.map]

/-- A request for a change of status, from every engine. A lock held by another party times it
out; with the lock free, a missing payment is not found; either way nothing changes. On a payment
that is found the answer is whether the request went through. A declined request (the status the
payment has, or a fail of a paid payment) only raises the counter of its decision. Any other
writes the requested status, the paid instant when a paid status is first reached, the note and
the error message when given, and the instant of the change, over that payment alone; it offers
one change of status to the sink and one message to the queue. Every decision on a payment that
is found raises one counter, under the target status and the result the ledger reached, and the
outlets change neither the answer nor the store. -/
theorem status_request_outcomes (id : Ident) (u : StatusRequest) (e : Engine) :
    (paymentKey id ∈ e.held →
      (updateStatus id u).exec e = .ok (.error (.lockTimeout (paymentKey id) e.policy.lockTimeoutMs), e)) ∧
    (paymentKey id ∉ e.held → e.store.payment? id = none →
      (updateStatus id u).exec e = .ok (.error (.notFound ("Payment " ++ id.text)), e)) ∧
    (∀ p, paymentKey id ∉ e.held → e.store.payment? id = some p →
      ∃ e', (updateStatus id u).exec e = .ok (.ok !(declines p u), e') ∧
        (∀ r t, e'.counted (.statusTransition r t) =
          e.counted (.statusTransition r t) + if r = verdict p u ∧ t = u.status then 1 else 0) ∧
        (declines p u = true → e' = e.tally (.statusTransition (verdict p u) u.status)) ∧
        (declines p u = false →
          e' = e.afterStatusWrite id p.status u (written e.store id u p e.now) ∧
          (∀ x, e'.store.payment? x = if id = x then some (u.applyTo p e.now) else e.store.payment? x) ∧
          e'.store.methods = e.store.methods ∧ e'.store.rows = e.store.rows ∧
          e'.store.audit = e.store.audit ∧
          e'.recorded.events = e.recorded.events ++
            (if e.heard then [.paymentStatusChanged id p.status u.status u.notify] else []) ∧
          e'.recorded.messages = e.recorded.messages ++
            (if e.outlets.sink == .recording && !e.outlets.queueFails then [⟨id, u.notify⟩] else []))) ∧
    ∀ o, ((updateStatus id u).exec { e with outlets := o }).map (fun x => (x.1, x.2.store)) =
      ((updateStatus id u).exec e).map (fun x => (x.1, x.2.store)) := by
  refine ⟨updateStatus_of_held, updateStatus_of_missing, fun p hkey hp => ?_,
    updateStatus_outlets id u e⟩
  cases hd : declines p u
  · -- the request goes through
    have h := updateStatus_of_applies (u := u) hkey hp hd
    refine ⟨_, h, counted_of_found hkey hp h, (fun h' => by cases h'), fun _ => ?_⟩
    obtain ⟨hev, hmsg⟩ := e.afterStatusWrite_recorded id p.status u (written e.store id u p e.now)
    refine ⟨rfl, fun x => ?_, by simp [written], by simp [written], by simp [written], hev, hmsg⟩
    rw [afterStatusWrite_store]
    exact payment?_written hp u e.now x
  · -- the request is declined
    have h := updateStatus_of_declines (u := u) hkey hp hd
    exact ⟨_, h, counted_of_found hkey hp h, fun _ => rfl, fun h' => by cases h'⟩

/-- A form payment asked to fail goes through: the answer is `true` and the payment reads back as
the request applied. -/
theorem status_request_outcomes_on_a_form_payment :
    let p₀ : Payment :=
      { id := ⟨1⟩, user := ⟨2⟩, gateway := "test", status := .form, amount := ⟨1999, 2, false⟩,
        paidAt := none, subscription := none, catalogItem := none, address := none,
        isRecurrent := false, parent := none, note := none, errorMessage := none,
        created := Instant.epoch, updated := Instant.epoch }
    let e₀ : Engine := { now := ⟨3600, 0⟩, store := { payments := [p₀] } }
    let u₀ : StatusRequest := { status := .fail, errorMessage := some "E: declined" }
    paymentKey p₀.id ∉ e₀.held ∧ e₀.store.payment? p₀.id = some p₀ ∧
      ∃ e', (updateStatus p₀.id u₀).exec e₀ = .ok (.ok true, e') ∧
        e'.store.payment? p₀.id = some (u₀.applyTo p₀ e₀.now) := by
  intro p₀ e₀ u₀
  have hkey : paymentKey p₀.id ∉ e₀.held := List.not_mem_nil
  have hp : e₀.store.payment? p₀.id = some p₀ := rfl
  obtain ⟨e', h, -, -, happ⟩ := (status_request_outcomes p₀.id u₀ e₀).2.2.1 p₀ hkey hp
  obtain ⟨-, hread, -⟩ := happ rfl
  exact ⟨hkey, hp, e', h, by rw [hread, if_pos rfl]⟩

/-- Two requests where the ledger's contract, read literally, fails. A request that goes through
stamps the payment with the instant of the change, so not every field but the status, the paid
instant, the note and the error message is kept. And a request on a missing payment whose key is
held times out rather than reporting the payment missing: the lock is taken before the payment is
read. -/
theorem status_write_restamps_the_payment :
    let p₀ : Payment :=
      { id := ⟨1⟩, user := ⟨2⟩, gateway := "test", status := .form, amount := ⟨1999, 2, false⟩,
        paidAt := none, subscription := none, catalogItem := none, address := none,
        isRecurrent := false, parent := none, note := none, errorMessage := none,
        created := Instant.epoch, updated := Instant.epoch }
    let e₀ : Engine := { now := ⟨3600, 0⟩, store := { payments := [p₀] } }
    let e₁ : Engine := { now := ⟨3600, 0⟩, held := [paymentKey p₀.id] }
    let u₀ : StatusRequest := { status := .fail }
    (∃ e', (updateStatus p₀.id u₀).exec e₀ = .ok (.ok true, e') ∧
      ∃ p', e'.store.payment? p₀.id = some p' ∧ p'.updated ≠ p₀.updated) ∧
    e₁.store.payment? p₀.id = none ∧
      (updateStatus p₀.id u₀).exec e₁ ≠ .ok (.error (.notFound ("Payment " ++ p₀.id.text)), e₁) := by
  intro p₀ e₀ e₁ u₀
  have hp : e₀.store.payment? p₀.id = some p₀ := rfl
  have h := updateStatus_of_applies (u := u₀) List.not_mem_nil hp rfl
  refine ⟨⟨_, h, u₀.applyTo p₀ e₀.now, ?_, by decide⟩, rfl, ?_⟩
  · rw [afterStatusWrite_store, payment?_written hp, if_pos rfl]
  · rw [updateStatus_of_held (List.mem_singleton_self _)]
    simp

end Ledger

end Rebill
