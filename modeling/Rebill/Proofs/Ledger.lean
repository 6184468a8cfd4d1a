import Rebill.Proofs.Registry

/-!
# What the ledger does to the engine

A finished run of `Ledger.updateStatus` did one of three things. It failed before the write (the
lock was held, or there is no such payment) and changed nothing. It declined the request, because
the payment already has the status or is paid and asked to fail, and only counted that. Or it
wrote the requested status over the payment's, counted the write, and announced it by one event
and one message: `Engine.afterStatusWrite`. A write sets the paid instant only when a paid status
is first reached, and leaves every other payment, the attempts and the audit log alone.

When the payment exists and its lock is free, the run always finishes well (`updateStatus_ok`).
-/

namespace Rebill

namespace Ledger

/-- What the ledger writes for a request on the payment `p` at `t`: the requested status, the paid
instant when a paid status is first reached, the note and the error message. -/
def StatusRequest.writeOn (u : StatusRequest) (p : Payment) (t : Instant) : StatusWrite :=
  { status := u.status,
    paidAt := if u.status.isPaidLike && p.paidAt.isNone then some (u.paidAt.getD t) else none,
    note := u.note, errorMessage := u.errorMessage }

end Ledger

/-- The engine after the ledger wrote a change of the payment `id` from `old` into the store `s`:
the write counted, then announced by an event and a message. -/
def Engine.afterStatusWrite (e : Engine) (id : Ident) (old : PaymentStatus)
    (u : Ledger.StatusRequest) (s : Store) : Engine :=
  (({ e with store := s }.tally (.statusTransition "applied" u.status)).announce
    (.paymentStatusChanged id old u.status u.notify) "update_status").post ⟨id, u.notify⟩
    "update_status"

namespace Engine

variable (e : Engine) (id : Ident) (old : PaymentStatus) (u : Ledger.StatusRequest) (s : Store)

@[simp] theorem afterStatusWrite_store : (e.afterStatusWrite id old u s).store = s := by
  simp [afterStatusWrite]
@[simp] theorem afterStatusWrite_held : (e.afterStatusWrite id old u s).held = e.held := by
  simp [afterStatusWrite]
@[simp] theorem afterStatusWrite_now : (e.afterStatusWrite id old u s).now = e.now := by
  simp [afterStatusWrite]
@[simp] theorem afterStatusWrite_policy : (e.afterStatusWrite id old u s).policy = e.policy := by
  simp [afterStatusWrite]
@[simp] theorem afterStatusWrite_gateways :
    (e.afterStatusWrite id old u s).gateways = e.gateways := by
  simp [afterStatusWrite]
@[simp] theorem afterStatusWrite_outlets :
    (e.afterStatusWrite id old u s).outlets = e.outlets := by
  simp [afterStatusWrite]
@[simp] theorem afterStatusWrite_charges :
    (e.afterStatusWrite id old u s).journal.charges = e.journal.charges := by
  simp [afterStatusWrite]

theorem afterStatusWrite_events :
    (e.afterStatusWrite id old u s).recorded.events =
      e.recorded.events ++
        (if e.heard then [.paymentStatusChanged id old u.status u.notify] else []) := by
  simp [afterStatusWrite, heard]

theorem afterStatusWrite_messages :
    (e.afterStatusWrite id old u s).recorded.messages =
      e.recorded.messages ++
        (if e.outlets.sink == .recording && !e.outlets.queueFails then [⟨id, u.notify⟩] else []) := by
  simp [afterStatusWrite, post_messages]

end Engine

namespace Ledger

open Svc

variable {id : Ident} {u : StatusRequest} {e e' : Engine}

theorem applyLocked_cases {r : Except BillingError (Option (PaymentStatus × PaymentStatus))}
    (h : (applyLocked id u).exec e = .ok (r, e')) :
    (e' = e ∧ (∃ err, r = .error err) ∧ e.store.payment? id = none) ∨
      (∃ c, e' = e.tally c ∧ r = .ok none) ∨
      ∃ p p' s', e.store.payment? id = some p ∧ p.status ≠ u.status ∧
        ¬(p.status.isPaidLike ∧ u.status = .fail) ∧
        e.store.savePaymentStatus id (u.writeOn p e.now) e.now = .ok (p', s') ∧
        r = .ok (some (p.status, u.status)) ∧
        e' = { e with store := s' }.tally (.statusTransition "applied" u.status) := by
  unfold applyLocked at h
  rcases exec_bind_eq_ok h with ⟨err, hp, rfl⟩ | ⟨p, e₁, hp, hrest⟩
  · rw [Attempts.exec_payment] at hp
    split at hp
    · cases hp
    · next hnone =>
      cases hp
      exact .inl ⟨rfl, ⟨_, rfl⟩, hnone⟩
  rw [Attempts.exec_payment] at hp
  split at hp
  · next p₀ hp₀ =>
    cases hp
    split at hrest
    · rw [exec_bind, exec_count] at hrest
      cases hrest
      exact .inr (.inl ⟨_, rfl, rfl⟩)
    rename_i hsame
    split at hrest
    · rw [exec_bind, exec_count] at hrest
      cases hrest
      exact .inr (.inl ⟨_, rfl, rfl⟩)
    rename_i hfail
    have h₀ := exec_bind_read (exec_now e) hrest
    have h₁ := exec_bind_read (exec_store e) h₀
    rw [exec_bind, exec_stored] at h₁
    -- the write cannot fail: the payment was just read
    obtain ⟨q, hs⟩ : ∃ q, e.store.savePaymentStatus id (u.writeOn p e.now) e.now = .ok q :=
      ⟨_, (Store.savePaymentStatus_eq_ok e.store).mpr ⟨p, hp₀, rfl⟩⟩
    obtain ⟨p', s'⟩ := q
    have hs' := hs
    simp only [StatusRequest.writeOn] at hs'
    simp only [hs', exec_bind, exec_count, exec_pure] at h₁
    cases h₁
    obtain ⟨q, hq, heq⟩ := (Store.savePaymentStatus_eq_ok e.store).mp hs
    cases heq
    exact .inr (.inr ⟨p, _, _, hp₀, by simpa using hsame, by simpa using hfail, hs, rfl, rfl⟩)
  · cases hp

theorem updateStatus_cases {r : Except BillingError Bool}
    (h : (updateStatus id u).exec e = .ok (r, e')) :
    (e' = e ∧ (∃ err, r = .error err) ∧ (paymentKey id ∈ e.held ∨ e.store.payment? id = none)) ∨
      (∃ c, e' = e.tally c ∧ r = .ok false) ∨
      ∃ p p' s', e.store.payment? id = some p ∧ p.status ≠ u.status ∧
        ¬(p.status.isPaidLike ∧ u.status = .fail) ∧
        e.store.savePaymentStatus id (u.writeOn p e.now) e.now = .ok (p', s') ∧
        r = .ok true ∧ e' = e.afterStatusWrite id p.status u s' := by
  unfold updateStatus at h
  rcases exec_bind_eq_ok h with ⟨err, hl, rfl⟩ | ⟨res, e₁, hl, hrest⟩
  · rcases withLock_cases hl with ⟨hkey, rfl, -⟩ | ⟨-, e₂, hbody, rfl⟩
    · exact .inl ⟨rfl, ⟨_, rfl⟩, .inl hkey⟩
    generalize hE : { e with held := paymentKey id :: e.held } = e₀ at hbody
    rcases applyLocked_cases hbody with ⟨rfl, -, hnone⟩ | ⟨c, -, hr⟩ | hsome
    · subst hE
      exact .inl ⟨by simp, ⟨_, rfl⟩, .inr hnone⟩
    · cases hr
    · obtain ⟨_, _, _, _, _, _, _, hr, _⟩ := hsome
      cases hr
  rcases withLock_cases hl with ⟨-, -, hr⟩ | ⟨-, e₂, hbody, rfl⟩
  · cases hr
  generalize hE : { e with held := paymentKey id :: e.held } = e₀ at hbody
  rcases applyLocked_cases hbody with ⟨-, ⟨err, hr⟩, -⟩ | ⟨c, rfl, hr⟩ |
    ⟨p, p', s', hp, hne, hnf, hs, hr, rfl⟩
  · cases hr
  · cases hr
    subst hE
    cases hrest
    exact .inr (.inl ⟨c, by simp [Engine.tally], rfl⟩)
  · cases hr
    subst hE
    simp only [exec_bind, exec_emit, exec_publish, exec_pure] at hrest
    cases hrest
    exact .inr (.inr ⟨p, p', s', hp, hne, hnf, hs, rfl, by
      simp [Engine.afterStatusWrite, Engine.tally]⟩)

theorem finishes_applyLocked : Finishes (applyLocked id u) e := by
  unfold applyLocked
  refine finishes_bind (Attempts.finishes_payment id e) fun p e₁ _ => ?_
  split
  · exact finishes_bind (finishes_of_exec (exec_count _ _)) fun _ _ _ => finishes_pure _
  split
  · exact finishes_bind (finishes_of_exec (exec_count _ _)) fun _ _ _ => finishes_pure _
  refine finishes_bind (finishes_of_exec (exec_now _)) fun t e₂ _ => ?_
  refine finishes_bind (finishes_of_exec (exec_store _)) fun st e₃ _ => ?_
  refine finishes_bind (finishes_stored _ _) fun saved e₄ _ => ?_
  exact finishes_bind (finishes_of_exec (exec_count _ _)) fun _ _ _ => finishes_pure _

theorem finishes_updateStatus : Finishes (updateStatus id u) e := by
  refine finishes_bind (finishes_withLock _ fun _ => finishes_applyLocked) fun res e₁ _ => ?_
  split
  · exact finishes_pure _
  · exact finishes_bind (finishes_of_exec (exec_emit _ _ _)) fun _ _ _ =>
      finishes_bind (finishes_of_exec (exec_publish _ _ _)) fun _ _ _ => finishes_pure _

/-- A request on a payment that exists, with its lock free, goes through. -/
theorem updateStatus_ok (hkey : paymentKey id ∉ e.held) (hp : e.store.payment? id ≠ none) :
    ∃ b e', (updateStatus id u).exec e = .ok (.ok b, e') := by
  have hfin : Finishes (updateStatus id u) e := finishes_updateStatus
  obtain ⟨r, e', hx⟩ := hfin
  rcases updateStatus_cases hx with ⟨-, -, hheld | hnone⟩ | ⟨c, -, rfl⟩ | ⟨-, -, -, -, -, -, -, rfl, -⟩
  · exact absurd hheld hkey
  · exact absurd hnone hp
  · exact ⟨false, e', hx⟩
  · exact ⟨true, e', hx⟩

end Ledger

end Rebill
