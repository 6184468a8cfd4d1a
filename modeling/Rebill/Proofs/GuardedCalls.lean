import Rebill.Proofs.ChargeSpacing

/-!
# The fast-charge guard at the gateway call

The guard `Run.fastChargeConflict` reads one attempt, the charged attempt on the method that is
due last, and compares it with the attempt about to be charged through `Instant.since`. A fast
conflict (`Engine.FastConflict`) is the existential the guard stands for: some other charged
attempt on the method due less than the threshold before the attempt, or later.

`fast_charge_guard_off_leap_seconds` puts the two together for every engine: the guard only
reads and answers by the latest charged attempt alone; with no positive threshold it never
answers; outside leap seconds it answers exactly on a fast conflict; and when a run hands an
attempt it has claimed over for the gateway call, no fast conflict with it is left in the engine
the call is made in. The claim keeps the attempts out of leap seconds whatever the clock, and the
preparation charges at most the attempt itself, only past the guard.

Inside a leap second the two part: `since` counts the leap second that the order of instants
does not, so a charge due in one and less than the threshold before the attempt, by that order,
can be a whole threshold before it by `since`
(`fast_charge_guard_misses_a_leap_second_charge`).
-/

namespace Rebill

namespace Engine

open Svc

theorem LeapFree.of_claim {id : Ident} {e e' : Engine} {r : Except BillingError (Option Charge)}
    (hl : e.LeapFree) (h : (Attempts.claim id).exec e = .ok (r, e')) : e'.LeapFree := by
  rcases Attempts.claim_cases h with ⟨rfl, -⟩ | ⟨c, v, s', hc, -, -, hs, -, rfl⟩
  · exact hl
  · have hc' : ({ c with status := some inFlight } : Charge).chargeAt.isLeap = false :=
      hl c (e.store.mem_charges_of_charge? hc)
    exact e.store.leapFree_saveCharge hl hc' hs

theorem not_fastConflict_of_clears {c : Charge} {e e' : Engine} (hclear : ¬e.FastConflict c)
    (h : ChargesOnly (e.Clears c) e e') : ¬e'.FastConflict c := by
  rintro ⟨hθ, d, hd, hid, hm, hs, hlt⟩
  rw [h.policy] at hθ hlt
  rcases h.store.charged _ hd hs with ⟨x, hx, hxs, hxid, hxm, hxt⟩ | ⟨hxid, -⟩
  · exact hclear ⟨hθ, x, hx, hxid ▸ hid, hxm ▸ hm, hxs, hxt ▸ hlt⟩
  · exact hid hxid

end Engine

namespace Run

open Svc Engine

theorem not_fastConflict_at_call {id : Ident} {c : Charge} {p : Payment} {g : Gateway}
    {e e₁ e₂ : Engine} (hleap : e.LeapFree)
    (hcl : (Attempts.claim id).exec e = .ok (.ok (some c), e₁))
    (hp : (prepare c).exec e₁ = .ok (.ok (.call p g), e₂)) : ¬e₂.FastConflict c := by
  have hleap₁ : e₁.LeapFree := hleap.of_claim hcl
  have hstored := charge?_of_claim hcl
  have hc : c.chargeAt.isLeap = false := hleap₁ c (e₁.store.mem_charges_of_charge? hstored)
  obtain ⟨hcharges, hcall⟩ := chargesOnly_prepare hleap₁ hc (pinned_of_charge? hstored) hp
  exact not_fastConflict_of_clears (hcall p g rfl).1 hcharges

/-- The guard only reads, and answers by the charged attempt on the method that is due last; with
no positive threshold it never answers. Outside leap seconds it answers exactly when some other
charged attempt on the method is due less than the threshold before the attempt, or later; and at
every gateway call a run makes for an attempt, no such attempt is charged. -/
theorem fast_charge_guard_off_leap_seconds (e : Engine) :
    (∀ c, ∃ r, (fastChargeConflict c).exec e = .ok (.ok r, e) ∧
      (r.isSome ↔ 0 < e.policy.fastChargeThreshold.nanos ∧
        ∃ prev, e.store.lastChargedForMethod c.method c.id = some prev ∧
          (prev.chargeAt = c.chargeAt ∨
            (c.chargeAt.since prev.chargeAt).nanos < e.policy.fastChargeThreshold.nanos)) ∧
      (e.policy.fastChargeThreshold.nanos ≤ 0 → r = none) ∧
      (e.LeapFree → c.chargeAt.isLeap = false → (r.isSome ↔ e.FastConflict c))) ∧
    (e.LeapFree → ∀ id c p g e₁ e₂, (Attempts.claim id).exec e = .ok (.ok (some c), e₁) →
      (prepare c).exec e₁ = .ok (.ok (.call p g), e₂) → ¬e₂.FastConflict c) := by
  refine ⟨fun c => ?_, fun hleap _ _ _ _ _ _ hcl hp => not_fastConflict_at_call hleap hcl hp⟩
  obtain ⟨r, hr, hiff⟩ := fastChargeConflict_exec c e
  refine ⟨r, hr, hiff, fun hθ => ?_, fun hleap hc => fastChargeConflict_isSome_iff hleap hc hr⟩
  cases r with
  | none => rfl
  | some _ => exact absurd (hiff.1 rfl).1 (by omega)

/-- An attempt due an hour after a charge on its method, with the default threshold of a day: the
guard trips, and it trips because of that charge. -/
theorem fast_charge_guard_trips_an_hour_after_a_charge :
    let d₀ : Charge :=
      { id := ⟨1⟩, method := ⟨2⟩, parent := ⟨3⟩, payment := none, chargeAt := Instant.epoch,
        retries := 3, customAmount := none, renewalItem := none, state := .charged, status := none,
        note := none, token := "tok", created := Instant.epoch, updated := Instant.epoch }
    let c₀ : Charge := { d₀ with id := ⟨4⟩, parent := ⟨5⟩, chargeAt := ⟨3600, 0⟩, state := .active }
    let e₀ : Engine := { now := ⟨3600, 0⟩, store := { rows := [⟨d₀, 1⟩, ⟨c₀, 2⟩], seq := 2 } }
    e₀.LeapFree ∧ c₀.chargeAt.isLeap = false ∧ e₀.FastConflict c₀ ∧
      ∃ r, (fastChargeConflict c₀).exec e₀ = .ok (.ok r, e₀) ∧ r.isSome := by
  intro d₀ c₀ e₀
  have hleap : e₀.LeapFree := by
    intro d hd
    obtain ⟨row, hrow, rfl⟩ := List.mem_map.1 hd
    simp only [e₀, List.mem_cons, List.not_mem_nil, or_false] at hrow
    rcases hrow with rfl | rfl <;> rfl
  have hc : c₀.chargeAt.isLeap = false := rfl
  have hconf : e₀.FastConflict c₀ :=
    ⟨by decide, d₀, List.mem_map.2 ⟨⟨d₀, 1⟩, List.mem_cons_self, rfl⟩, by decide, rfl, rfl,
      by decide⟩
  obtain ⟨r, hr, -, -, hoff⟩ := (fast_charge_guard_off_leap_seconds e₀).1 c₀
  exact ⟨hleap, hc, hconf, r, hr, (hoff hleap hc).2 hconf⟩

end Run

/-- A charge due inside a leap second, less than the threshold before the attempt by the order of
instants, escapes the guard: `since` counts the leap second, and finds the charge a whole
threshold before. -/
theorem fast_charge_guard_misses_a_leap_second_charge :
    let d₀ : Charge :=
      { id := ⟨1⟩, method := ⟨2⟩, parent := ⟨3⟩, payment := none, chargeAt := ⟨59, 1500000000⟩,
        retries := 3, customAmount := none, renewalItem := none, state := .charged, status := none,
        note := none, token := "tok", created := Instant.epoch, updated := Instant.epoch }
    let c₀ : Charge :=
      { d₀ with id := ⟨4⟩, parent := ⟨5⟩, chargeAt := ⟨60, 600000000⟩, state := .active }
    let e₀ : Engine :=
      { now := ⟨61, 0⟩, policy := { fastChargeThreshold := ⟨1000000000⟩ },
        store := { rows := [⟨d₀, 1⟩, ⟨c₀, 2⟩], seq := 2 } }
    e₀.FastConflict c₀ ∧ (Run.fastChargeConflict c₀).exec e₀ = .ok (.ok none, e₀) := by
  intro d₀ c₀ e₀
  refine ⟨⟨by decide, d₀, List.mem_map.2 ⟨⟨d₀, 1⟩, List.mem_cons_self, rfl⟩, by decide, rfl, rfl,
    by decide⟩, ?_⟩
  obtain ⟨r, hr, hiff⟩ := Run.fastChargeConflict_exec c₀ e₀
  have hlast : e₀.store.lastChargedForMethod c₀.method c₀.id = some d₀ := rfl
  -- the two instants differ, and `since` puts the charge 1.1 s before the attempt
  have hfar : ¬(d₀.chargeAt = c₀.chargeAt ∨
      (c₀.chargeAt.since d₀.chargeAt).nanos < e₀.policy.fastChargeThreshold.nanos) := by decide
  cases r with
  | none => exact hr
  | some _ =>
    obtain ⟨-, prev, hprev, hclose⟩ := hiff.1 rfl
    rw [hlast] at hprev
    cases hprev
    exact absurd hclose hfar

end Rebill
