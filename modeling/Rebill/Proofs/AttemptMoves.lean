import Rebill.Proofs.Effects

/-!
# How attempts move

The registry changes an attempt in a few ways only: a move allowed by the table of states, the
mark of a claim, the link to a payment, a note, a retry spent on re-arming a failed attempt, and
a user's reactivation. This module names what all of them have in common, `Charge.Evolves`:

* a closed attempt (charged, or stopped by the system or an administrator) stays in its state and
  keeps its due instant;
* the retries never grow, nor fall below zero when they were not below it;
* the budget never grows, where `Charge.budget` counts the gateway charges the attempt may still
  cost: one while it is open, has no status and a budget that is not negative, and one for each
  retry left.

The only move of the registry that raises a budget is giving a claim back (`releaseClaim`), which
clears the status of an attempt in flight.
-/

namespace Rebill

namespace ChargeState

/-- The states nothing leaves: charged, stopped by the system, stopped by an administrator. -/
def isClosed : ChargeState → Bool
  | .charged | .systemStop | .adminStop => true
  | _ => false

theorem eq_of_allows_of_isClosed {s t : ChargeState} {a : Actor} (hs : s.isClosed)
    (h : s.allows t a) : t = s := by
  cases s <;> simp only [isClosed, Bool.false_eq_true] at hs <;>
    cases t <;> cases a <;> simp_all [allows, step]

end ChargeState

namespace Charge

section Fields

variable (c : Charge) (t : ChargeState) (u : ChargeUpdate) (line : String)

@[simp] theorem pushNote_id : (c.pushNote line).id = c.id := rfl
@[simp] theorem pushNote_method : (c.pushNote line).method = c.method := rfl
@[simp] theorem pushNote_state : (c.pushNote line).state = c.state := rfl
@[simp] theorem pushNote_status : (c.pushNote line).status = c.status := rfl
@[simp] theorem pushNote_payment : (c.pushNote line).payment = c.payment := rfl
@[simp] theorem pushNote_retries : (c.pushNote line).retries = c.retries := rfl
@[simp] theorem pushNote_chargeAt : (c.pushNote line).chargeAt = c.chargeAt := rfl
@[simp] theorem pushNote_note : (c.pushNote line).note = some (addLine c.note line) := rfl

@[simp] theorem moveTo_id : (c.moveTo t u).id = c.id := by
  unfold moveTo; split <;> rfl
@[simp] theorem moveTo_method : (c.moveTo t u).method = c.method := by
  unfold moveTo; split <;> rfl
@[simp] theorem moveTo_state : (c.moveTo t u).state = t := by
  unfold moveTo; split <;> rfl
@[simp] theorem moveTo_status : (c.moveTo t u).status = u.status.orElse (fun _ => c.status) := by
  unfold moveTo; split <;> rfl
@[simp] theorem moveTo_payment :
    (c.moveTo t u).payment = u.payment.orElse (fun _ => c.payment) := by
  unfold moveTo; split <;> rfl
@[simp] theorem moveTo_retries : (c.moveTo t u).retries = c.retries := by
  unfold moveTo; split <;> rfl
@[simp] theorem moveTo_chargeAt : (c.moveTo t u).chargeAt = c.chargeAt := by
  unfold moveTo; split <;> rfl

theorem moveTo_note :
    (c.moveTo t u).note = match u.note with
      | some line => some (addLine c.note line)
      | none => c.note := by
  unfold moveTo; split <;> simp_all

end Fields

/-- The gateway charges an attempt may still cost: one while it is open, without status and with
a budget that is not negative, and one for each retry left. -/
def budget (c : Charge) : Nat :=
  (if c.status.isNone && !c.state.isClosed && decide (0 ≤ c.retries) then 1 else 0) +
    c.retries.toNat

/-- How the registry lets an attempt change. -/
structure Evolves (c c' : Charge) : Prop where
  id : c'.id = c.id
  method : c'.method = c.method
  closed : c.state.isClosed → c'.state = c.state ∧ c'.chargeAt = c.chargeAt
  retries : c'.retries ≤ c.retries
  nonneg : 0 ≤ c.retries → 0 ≤ c'.retries
  budget : c'.budget ≤ c.budget

namespace Evolves

@[refl] theorem refl (c : Charge) : Evolves c c :=
  ⟨rfl, rfl, fun _ => ⟨rfl, rfl⟩, Int.le_refl _, fun h => h, Nat.le_refl _⟩

theorem trans {c₁ c₂ c₃ : Charge} (h₁ : Evolves c₁ c₂) (h₂ : Evolves c₂ c₃) : Evolves c₁ c₃ where
  id := h₂.id.trans h₁.id
  method := h₂.method.trans h₁.method
  closed := fun hc =>
    have h₁c := h₁.closed hc
    have h₂c := h₂.closed (h₁c.1 ▸ hc)
    ⟨h₂c.1.trans h₁c.1, h₂c.2.trans h₁c.2⟩
  retries := Int.le_trans h₂.retries h₁.retries
  nonneg := h₂.nonneg ∘ h₁.nonneg
  budget := Nat.le_trans h₂.budget h₁.budget

end Evolves

variable (c : Charge)

theorem evolves_of_same {c' : Charge} (hid : c'.id = c.id) (hm : c'.method = c.method)
    (hs : c'.state = c.state) (hst : c'.status = c.status) (hr : c'.retries = c.retries)
    (ht : c'.chargeAt = c.chargeAt) : Evolves c c' where
  id := hid
  method := hm
  closed := fun _ => ⟨hs, ht⟩
  retries := hr ▸ Int.le_refl _
  nonneg := fun h => hr ▸ h
  budget := by simp only [budget, hs, hst, hr, Nat.le_refl]

theorem evolves_pushNote (line : String) : Evolves c (c.pushNote line) :=
  evolves_of_same c rfl rfl rfl rfl rfl rfl

theorem evolves_moveTo {t : ChargeState} {a : Actor} (h : c.state.allows t a) (u : ChargeUpdate) :
    Evolves c (c.moveTo t u) := by
  have hmove : Evolves c
      { c with state := t, status := u.status.orElse (fun _ => c.status),
               payment := u.payment.orElse (fun _ => c.payment) } := by
    refine ⟨rfl, rfl, fun hc => ⟨ChargeState.eq_of_allows_of_isClosed hc h, rfl⟩, Int.le_refl _,
      fun h => h, ?_⟩
    by_cases hc : c.state.isClosed
    · rw [ChargeState.eq_of_allows_of_isClosed hc h]
      cases hs : c.status <;> cases u.status <;> simp [budget, hs, hc]
    · cases hs : c.status <;> cases u.status <;> simp only [budget, hs, hc] <;>
        split <;> split <;> simp_all
  unfold moveTo
  cases u.note with
  | none => exact hmove
  | some line => exact hmove.trans (evolves_pushNote _ line)

theorem evolves_claim (status : String) : Evolves c { c with status := some status } where
  id := rfl
  method := rfl
  closed := fun _ => ⟨rfl, rfl⟩
  retries := Int.le_refl _
  nonneg := fun h => h
  budget := by simp [budget]

theorem evolves_link (p : Ident) : Evolves c { c with payment := some p } :=
  evolves_of_same c rfl rfl rfl rfl rfl rfl

theorem evolves_rearm (hs : c.state = .chargeFailed) (hr : 0 < c.retries) (due : Instant) :
    Evolves c { c with retries := c.retries - 1, state := .active, chargeAt := due,
                       status := none } where
  id := rfl
  method := rfl
  closed := fun hc => by simp [hs, ChargeState.isClosed] at hc
  retries := show c.retries - 1 ≤ c.retries by omega
  nonneg := fun _ => show 0 ≤ c.retries - 1 by omega
  budget := by
    have hr' : 0 ≤ c.retries - 1 := by omega
    have hstep : (c.retries - 1).toNat + 1 = c.retries.toNat := by omega
    simp only [budget, hs, ChargeState.isClosed, Option.isNone_none, hr', decide_true,
      Bool.and_true, Bool.not_false, if_true]
    omega

theorem evolves_reactivate (hs : c.state = .userStop) : Evolves c { c with state := .active } :=
  { id := rfl
    method := rfl
    closed := fun hc => by simp [hs, ChargeState.isClosed] at hc
    retries := Int.le_refl _
    nonneg := fun h => h
    budget := by simp [budget, hs, ChargeState.isClosed] }

theorem Evolves.savedOver {r c c' : Charge} (h : Evolves c c') (hs : c.state = r.state)
    (hst : c.status = r.status) (hr : c.retries = r.retries) (ht : c.chargeAt = r.chargeAt)
    (t : Instant) : Evolves r (r.savedOver c' t) where
  id := rfl
  method := rfl
  closed := fun hc => by
    obtain ⟨h₁, h₂⟩ := h.closed (hs ▸ hc)
    exact ⟨h₁.trans hs, h₂.trans ht⟩
  retries := hr ▸ h.retries
  nonneg := fun h₀ => h.nonneg (hr ▸ h₀)
  budget := by
    have hb : r.budget = c.budget := by simp only [Charge.budget, hs, hst, hr]
    exact hb ▸ h.budget

theorem Evolves.savedOver_withToken {s : Store} {r c' : Charge} (h : Evolves (s.withToken r) c')
    (t : Instant) : Evolves r (r.savedOver c' t) :=
  h.savedOver (by simp [Store.withToken_eq]) (by simp [Store.withToken_eq])
    (by simp [Store.withToken_eq]) (by simp [Store.withToken_eq]) t

end Charge

end Rebill
