import Rebill.Proofs.TimeLine
import Rebill.Proofs.Lineage

/-!
# The instant of the next charge

`nextChargeAt` is stated here without its code. `Schedule p sub terms g now t` says that `t` is
an acceptable next charge of the paid payment `p`:

* the payment is paid through an instant `P` (`PaidThrough`): the end of the subscription row
  when there is one, else its paid instant moved by the catalog length in days, which needs a
  paid instant and a positive length;
* the lead time `L` is the catalog item's own, else the global one, where zero means none
  (`Terms.LeadOf`); a lead time needs the payment to belong to a subscription;
* `t` is `P`, or `P` moved back by `L` hours (`DueAt`; a negative lead moves it later);
* `t` lies after now, not before the start of the subscription row, and not before the paid
  instant.

The moves are the checked ones of the time line, so `PaidThrough` and `DueAt` hold only where
the instants exist. The computation gives `t` exactly when `Schedule` holds of `t`
(`nextChargeAt_run_eq_ok`), and, when its arithmetic is in range (`Terms.Fits`), a schedule error
exactly when no instant is acceptable (`nextChargeAt_run_eq_error`).

Scheduling after a charged attempt runs this computation with the configured lead time at the
current instant (`Attempts.exec_scheduleNext`). A failed computation is an invalid schedule and
changes nothing, even where the payment already has attempts; an accepted instant is passed on to
the making of an attempt for the payment, under its lock. The main statement,
`Attempts.schedules_the_next_charge`, puts the two together.
-/

namespace Rebill

/-! ## The schedule on its own terms -/

/-- The lead time in hours that catalog terms and a global lead give: the catalog item's own, else
the global one, where zero means none. -/
def Terms.LeadOf (terms : Terms) (globalLead lead : Option Int) : Prop :=
  ∀ h, lead = some h ↔ h ≠ 0 ∧
    (terms.chargeBeforeHours = some h ∨ terms.chargeBeforeHours = none ∧ globalLead = some h)

/-- The instant a payment is paid through: the end of its subscription row, or its paid instant
moved by a positive catalog length in days. -/
inductive PaidThrough (p : Payment) (terms : Terms) : Option Subscription → Instant → Prop
  | subscription (s : Subscription) : PaidThrough p terms (some s) s.endAt
  | length {paid through : Instant} {d : Span} : p.paidAt = some paid → 0 < terms.lengthDays →
      spanOfDays terms.lengthDays = .ok d → shiftBy paid d = .ok through →
      PaidThrough p terms none through

/-- The charge instant for a paid-through instant: that instant with no lead time, else the lead
time in hours before it. -/
inductive DueAt (through : Instant) : Option Int → Instant → Prop
  | noLead : DueAt through none through
  | lead {hours : Int} {d : Span} {t : Instant} :
      spanOfHours hours = .ok d → shiftBack through d = .ok t → DueAt through (some hours) t

/-- An acceptable next charge instant `t` of the payment `p`, at `now`. -/
structure Schedule (p : Payment) (sub : Option Subscription) (terms : Terms)
    (globalLead : Option Int) (now t : Instant) : Prop where
  due : ∃ through lead, PaidThrough p terms sub through ∧ terms.LeadOf globalLead lead ∧
    (lead = none ∨ p.subscription.isSome) ∧ DueAt through lead t
  future : now < t
  afterStart : ∀ s, sub = some s → s.startAt ≤ t
  afterPaid : ∀ paid, p.paidAt = some paid → paid ≤ t

theorem Terms.leadOf_lead (terms : Terms) (g : Option Int) : terms.LeadOf g (terms.lead g) := by
  intro h
  unfold Terms.lead
  cases terms.chargeBeforeHours <;> cases g <;> simp +contextual [Option.filter]

theorem Terms.LeadOf.eq_lead {terms : Terms} {g lead : Option Int} (hL : terms.LeadOf g lead) :
    lead = terms.lead g :=
  Option.ext fun h => (hL h).trans (terms.leadOf_lead g h).symm

/-! ## The computation in three steps -/

/-- The paid-through instant moved back by the lead time, which needs a subscription. -/
def leadBack (p : Payment) (lead : Option Int) (through : Instant) :
    ExceptT ScheduleError (Except Overflow) Instant :=
  match lead with
  | none => pure through
  | some hours =>
    if p.subscription.isNone then throw (.leadWithoutSubscription p.id)
    else ExceptT.lift (spanOfHours hours >>= shiftBack through)

/-- The checks of a charge instant: in the future, not before the subscription's start, not
before the paid instant. -/
def checkDue (p : Payment) (sub : Option Subscription) (now due : Instant) :
    ExceptT ScheduleError (Except Overflow) Instant := do
  if due ≤ now then throw (.notInFuture due)
  if let some s := sub then
    if due < s.startAt then throw (.beforeStart due s.startAt)
  if let some paid := p.paidAt then
    if due < paid then throw (.beforePaidAt due paid)
  pure due

theorem nextChargeAt_eq (p : Payment) (sub : Option Subscription) (terms : Terms)
    (g : Option Int) (now : Instant) :
    nextChargeAt p sub terms g now =
      paidThrough p sub terms >>= fun through =>
        leadBack p (terms.lead g) through >>= checkDue p sub now := by
  unfold nextChargeAt
  congr 1
  funext through
  -- the code runs the checks inside each branch of the lead time
  unfold leadBack
  cases terms.lead g with
  | none => rfl
  | some hours => cases p.subscription.isNone <;> rfl

/-! ## Each step gives what the schedule says -/

namespace Instant

theorem not_le_iff {a b : Instant} : ¬a ≤ b ↔ b < a := Int.not_le

theorem not_lt_iff {a b : Instant} : ¬a < b ↔ b ≤ a := Int.not_lt

end Instant

theorem except_bind_eq_ok {ε α β : Type} {x : Except ε α} {f : α → Except ε β} {b : β} :
    x >>= f = .ok b ↔ ∃ a, x = .ok a ∧ f a = .ok b := by
  cases x <;> simp [bind, Except.bind]

section Steps

variable {α β : Type}

theorem run_bind_eq_ok {x : ExceptT ScheduleError (Except Overflow) α}
    {f : α → ExceptT ScheduleError (Except Overflow) β} {b : β} :
    (x >>= f).run = .ok (.ok b) ↔ ∃ a, x.run = .ok (.ok a) ∧ (f a).run = .ok (.ok b) := by
  rw [ExceptT.run_bind]
  rcases x.run with o | err | a <;> simp [bind, Except.bind, pure, Except.pure]

theorem except_pure_eq_ok {ε : Type} {a b : α} : (pure a : Except ε α) = .ok b ↔ a = b :=
  ⟨fun h => by cases h; rfl, by rintro rfl; rfl⟩

theorem run_ite_throw_eq_ok {c : Prop} [Decidable c] {err : ScheduleError}
    {k : ExceptT ScheduleError (Except Overflow) α} {a : α} :
    (if c then throw err else k).run = .ok (.ok a) ↔ ¬c ∧ k.run = .ok (.ok a) := by
  by_cases hc : c <;> simp [hc, pure, Except.pure]

theorem run_lift_eq_ok {y : Except Overflow α} {a : α} :
    (ExceptT.lift y : ExceptT ScheduleError (Except Overflow) α).run = .ok (.ok a) ↔
      y = .ok a := by
  rw [ExceptT.run_lift]
  cases y <;> simp [Functor.map, Except.map]

variable {p : Payment} {sub : Option Subscription} {terms : Terms} {g : Option Int}

theorem paidThrough_run_eq_ok {P : Instant} :
    (paidThrough p sub terms).run = .ok (.ok P) ↔ PaidThrough p terms sub P := by
  unfold paidThrough
  cases sub with
  | some s =>
    constructor
    · rintro ⟨⟩
      exact .subscription s
    · rintro ⟨⟩
      rfl
  | none =>
    cases hpaid : p.paidAt with
    | none =>
      refine ⟨(fun h => by cases h), fun h => ?_⟩
      cases h with
      | length hp => simp [hpaid] at hp
    | some paid =>
      dsimp only
      by_cases hlen : terms.lengthDays ≤ 0
      · rw [if_pos hlen]
        refine ⟨(fun h => by cases h), fun h => ?_⟩
        cases h with
        | length _ hpos => omega
      · rw [if_neg hlen, run_lift_eq_ok, except_bind_eq_ok]
        constructor
        · rintro ⟨d, hd, hs⟩
          exact .length hpaid (by omega) hd hs
        · intro h
          cases h with
          | length hp _ hd hs =>
            obtain rfl := Option.some.inj (hpaid.symm.trans hp)
            exact ⟨_, hd, hs⟩

theorem leadBack_run_eq_ok {lead : Option Int} {through t : Instant} :
    (leadBack p lead through).run = .ok (.ok t) ↔
      (lead = none ∨ p.subscription.isSome) ∧ DueAt through lead t := by
  unfold leadBack
  cases lead with
  | none =>
    constructor
    · rintro ⟨⟩
      exact ⟨.inl rfl, .noLead⟩
    · rintro ⟨-, ⟨⟩⟩
      rfl
  | some hours =>
    cases hsub : p.subscription with
    | none =>
      refine ⟨(fun h => by cases h), fun h => ?_⟩
      simp at h
    | some sid =>
      dsimp only
      rw [Option.isNone_some, if_neg Bool.false_ne_true, run_lift_eq_ok, except_bind_eq_ok]
      constructor
      · rintro ⟨d, hd, ht⟩
        exact ⟨.inr rfl, .lead hd ht⟩
      · rintro ⟨-, h⟩
        cases h with
        | lead hd ht => exact ⟨_, hd, ht⟩

theorem checkDue_run_eq_ok {now due t : Instant} :
    (checkDue p sub now due).run = .ok (.ok t) ↔
      now < due ∧ (∀ s, sub = some s → s.startAt ≤ due) ∧
        (∀ paid, p.paidAt = some paid → paid ≤ due) ∧ due = t := by
  unfold checkDue
  simp only [bind_pure_comp]
  simp
  rw [run_ite_throw_eq_ok, Instant.not_le_iff]
  cases sub <;> cases p.paidAt <;>
    simp [run_ite_throw_eq_ok, except_pure_eq_ok, Instant.not_lt_iff]

end Steps

/-! ## The computation gives exactly the acceptable instant -/

section Schedule

variable {p : Payment} {sub : Option Subscription} {terms : Terms} {g : Option Int}
  {now : Instant}

theorem nextChargeAt_run_eq_ok {t : Instant} :
    (nextChargeAt p sub terms g now).run = .ok (.ok t) ↔ Schedule p sub terms g now t := by
  rw [nextChargeAt_eq, run_bind_eq_ok]
  constructor
  · rintro ⟨through, hthrough, hrest⟩
    obtain ⟨due, hdue, hcheck⟩ := run_bind_eq_ok.1 hrest
    obtain ⟨hsub, hat⟩ := leadBack_run_eq_ok.1 hdue
    obtain ⟨hnow, hstart, hpaid, rfl⟩ := checkDue_run_eq_ok.1 hcheck
    exact ⟨⟨through, terms.lead g, paidThrough_run_eq_ok.1 hthrough, terms.leadOf_lead g, hsub, hat⟩,
      hnow, hstart, hpaid⟩
  · rintro ⟨⟨through, lead, hthrough, hlead, hsub, hat⟩, hnow, hstart, hpaid⟩
    obtain rfl := hlead.eq_lead
    exact ⟨through, paidThrough_run_eq_ok.2 hthrough,
      run_bind_eq_ok.2 ⟨t, leadBack_run_eq_ok.2 ⟨hsub, hat⟩, checkDue_run_eq_ok.2 ⟨hnow, hstart, hpaid, rfl⟩⟩⟩

/-- With its arithmetic in range, the computation fails with a schedule error exactly when no
instant is acceptable. -/
theorem nextChargeAt_run_eq_error (hfit : terms.Fits p sub g) :
    (∃ err, (nextChargeAt p sub terms g now).run = .ok (.error err)) ↔
      ¬∃ t, Schedule p sub terms g now t := by
  constructor
  · rintro ⟨err, herr⟩ ⟨t, ht⟩
    rw [nextChargeAt_run_eq_ok.2 ht] at herr
    cases herr
  · intro hnone
    have hsettles : Settles (nextChargeAt p sub terms g now) := settles_nextChargeAt hfit
    obtain ⟨r, hr⟩ := hsettles
    cases r with
    | error err => exact ⟨err, hr⟩
    | ok t => exact absurd ⟨t, nextChargeAt_run_eq_ok.1 hr⟩ hnone

end Schedule

/-! ## Scheduling after a charged attempt -/

namespace Attempts

open Svc

/-- The attempt of the next cycle that scheduling after the charged attempt `c` drafts for the
payment `parent`, due at `t`. -/
def nextDraft (c : Charge) (parent : Ident) (t : Instant) (retries : Int) : ChargeDraft :=
  { method := c.method, parent, chargeAt := t, retries, customAmount := c.customAmount,
    renewalItem := c.renewalItem, note := none }

variable {c : Charge} {pid : Ident} {q : Payment} {e : Engine}

theorem exec_scheduleNext (hc : c.state = .charged) (hpay : c.payment = some pid)
    (hq : e.store.payment? pid = some q) (sub : Option Subscription) (terms : Terms) :
    (scheduleNext c sub terms).exec e =
      match (nextChargeAt q sub terms e.policy.chargeBeforeHours e.now).run with
      | .ok (.ok t) => (createAttemptFrom (nextDraft c pid t e.policy.defaultRetries)).exec e
      | .ok (.error err) => .ok (.error (.invalidSchedule err.message), e)
      | .error o => .error o := by
  have hid : q.id = pid := e.store.id_of_payment? hq
  unfold scheduleNext
  have hpayment : (payment pid).exec e = .ok (.ok q, e) := by rw [exec_payment, hq]
  simp only [hc, hpay, bne_self_eq_false, Bool.false_eq_true, if_false]
  rw [exec_bind_ok hpayment, exec_bind_ok (exec_policy e), exec_bind_ok (exec_now e), hid]
  rcases (nextChargeAt q sub terms e.policy.chargeBeforeHours e.now).run with o | err | t
  · rfl
  · rfl
  · rfl

theorem exec_createAttemptFrom_of_none {d : ChargeDraft}
    (hl : e.store.latestForParent d.parent = none) :
    (createAttemptFrom d).exec e = if parentKey d.parent ∈ e.held then
      .ok (.error (.lockTimeout (parentKey d.parent) e.policy.lockTimeoutMs), e)
    else match e.store.createCharge d e.now with
      | .ok (a, s) => .ok (.ok a, { e with store := s })
      | .error f => .ok (.error (.storage f), e) := by
  unfold createAttemptFrom
  rw [exec_withLock]
  split
  · rfl
  · unfold insertUnlessExists
    rw [exec_bind_ok (exec_store _)]
    simp only [hl]
    rw [exec_bind_ok (exec_store _), exec_bind_ok (exec_now _)]
    cases e.store.createCharge d e.now with
    | error f => simp
    | ok r => simp

/-- The next charge of a paid payment is the acceptable instant of its schedule, and, with the
arithmetic in range, a schedule error exactly when there is none. Scheduling after a charged
attempt computes it for the payment the attempt produced, with the configured lead time at the
current instant. A schedule error is refused as an invalid schedule and changes nothing, whether
or not the payment has attempts; an acceptable instant goes to the making of an attempt under the
payment's lock, which times out on a held lock, hands back the latest attempt of the payment
unchanged, or writes the attempt the store makes from the draft. -/
theorem schedules_the_next_charge (p : Payment) (sub : Option Subscription) (terms : Terms)
    (g : Option Int) (now : Instant) (hfit : terms.Fits p sub g) :
    (∀ t, (nextChargeAt p sub terms g now).run = .ok (.ok t) ↔ Schedule p sub terms g now t) ∧
    ((∃ err, (nextChargeAt p sub terms g now).run = .ok (.error err)) ↔
      ¬∃ t, Schedule p sub terms g now t) ∧
    ∀ (c : Charge) (pid : Ident) (e : Engine), c.state = .charged → c.payment = some pid →
      e.store.payment? pid = some p → e.policy.chargeBeforeHours = g → e.now = now →
      (∀ err, (nextChargeAt p sub terms g now).run = .ok (.error err) →
        (scheduleNext c sub terms).exec e = .ok (.error (.invalidSchedule err.message), e)) ∧
      ∀ t, Schedule p sub terms g now t →
        (scheduleNext c sub terms).exec e =
          if parentKey pid ∈ e.held then
            .ok (.error (.lockTimeout (parentKey pid) e.policy.lockTimeoutMs), e)
          else match e.store.latestForParent pid with
            | some l => .ok (.ok l, e)
            | none =>
              match e.store.createCharge (nextDraft c pid t e.policy.defaultRetries) e.now with
              | .ok (a, s) => .ok (.ok a, { e with store := s })
              | .error f => .ok (.error (.storage f), e) := by
  refine ⟨fun t => nextChargeAt_run_eq_ok, nextChargeAt_run_eq_error hfit, ?_⟩
  rintro c pid e hc hpay hq rfl rfl
  refine ⟨fun err herr => ?_, fun t ht => ?_⟩
  · rw [exec_scheduleNext hc hpay hq, herr]
  · rw [exec_scheduleNext hc hpay hq, nextChargeAt_run_eq_ok.2 ht]
    dsimp only
    cases hl : e.store.latestForParent pid with
    | some l => exact exec_createAttemptFrom_of_latest hl
    | none => exact exec_createAttemptFrom_of_none hl

/-- A payment paid at the epoch, on thirty-day terms with no lead time: its next charge is due
thirty days on, and scheduling after the attempt that produced it makes an attempt due then. -/
theorem schedules_the_next_charge_thirty_days_on :
    let q₀ : Payment :=
      { id := ⟨1⟩, user := ⟨2⟩, gateway := "test", status := .paid, amount := ⟨1999, 2, false⟩,
        paidAt := some Instant.epoch, subscription := none, catalogItem := none, address := none,
        isRecurrent := false, parent := none, note := none, errorMessage := none,
        created := Instant.epoch, updated := Instant.epoch }
    let m₀ : Method :=
      { id := ⟨3⟩, user := ⟨2⟩, gateway := "test", token := "tok", expiresOn := none,
        created := Instant.epoch }
    let c₀ : Charge :=
      { id := ⟨4⟩, method := m₀.id, parent := ⟨5⟩, payment := some q₀.id,
        chargeAt := Instant.epoch, retries := 3, customAmount := none, renewalItem := none,
        state := .charged, status := none, note := none, token := "tok",
        created := Instant.epoch, updated := Instant.epoch }
    let e₀ : Engine := { now := Instant.epoch, store := { payments := [q₀], methods := [m₀] } }
    let terms₀ : Terms := { lengthDays := 30 }
    terms₀.Fits q₀ none e₀.policy.chargeBeforeHours ∧
      Schedule q₀ none terms₀ e₀.policy.chargeBeforeHours e₀.now ⟨2592000, 0⟩ ∧
      ∃ a e', (scheduleNext c₀ none terms₀).exec e₀ = .ok (.ok a, e') ∧
        a.parent = q₀.id ∧ a.chargeAt = ⟨2592000, 0⟩ := by
  intro q₀ m₀ c₀ e₀ terms₀
  have hfit : terms₀.Fits q₀ none e₀.policy.chargeBeforeHours :=
    ⟨fun _ _ hpaid _ => by cases hpaid; exact ⟨⟨2592000, 0⟩, by decide +kernel⟩,
      fun _ _ _ hlead => by cases hlead⟩
  have h := schedules_the_next_charge q₀ none terms₀ e₀.policy.chargeBeforeHours e₀.now hfit
  have hsched : Schedule q₀ none terms₀ e₀.policy.chargeBeforeHours e₀.now ⟨2592000, 0⟩ :=
    (h.1 _).1 (by decide +kernel)
  have hexec := (h.2.2 c₀ q₀.id e₀ rfl rfl rfl rfl rfl).2 _ hsched
  exact ⟨hfit, hsched, _, _, hexec, rfl, rfl⟩

/-- A schedule that is acceptable does not always give an attempt: with the payment's lock held,
scheduling after the charged attempt times out, although the payment has an attempt to hand
back. -/
theorem scheduling_waits_for_the_payment_lock :
    let q₀ : Payment :=
      { id := ⟨1⟩, user := ⟨2⟩, gateway := "test", status := .paid, amount := ⟨1999, 2, false⟩,
        paidAt := some Instant.epoch, subscription := none, catalogItem := none, address := none,
        isRecurrent := false, parent := none, note := none, errorMessage := none,
        created := Instant.epoch, updated := Instant.epoch }
    let c₀ : Charge :=
      { id := ⟨4⟩, method := ⟨3⟩, parent := ⟨5⟩, payment := some q₀.id,
        chargeAt := Instant.epoch, retries := 3, customAmount := none, renewalItem := none,
        state := .charged, status := none, note := none, token := "tok",
        created := Instant.epoch, updated := Instant.epoch }
    let l₀ : Charge := { c₀ with id := ⟨6⟩, parent := q₀.id, payment := none, state := .active }
    let e₀ : Engine :=
      { now := Instant.epoch, store := { payments := [q₀], rows := [⟨l₀, 1⟩], seq := 1 },
        held := [parentKey q₀.id] }
    let terms₀ : Terms := { lengthDays := 30 }
    (nextChargeAt q₀ none terms₀ e₀.policy.chargeBeforeHours e₀.now).run = .ok (.ok ⟨2592000, 0⟩) ∧
      e₀.store.latestForParent q₀.id = some l₀ ∧
      (scheduleNext c₀ none terms₀).exec e₀ =
        .ok (.error (.lockTimeout (parentKey q₀.id) e₀.policy.lockTimeoutMs), e₀) := by
  intro q₀ c₀ l₀ e₀ terms₀
  have hrun : (nextChargeAt q₀ none terms₀ e₀.policy.chargeBeforeHours e₀.now).run =
      .ok (.ok ⟨2592000, 0⟩) := by decide +kernel
  have hl : e₀.store.latestForParent q₀.id = some l₀ := rfl
  refine ⟨hrun, hl, ?_⟩
  rw [exec_scheduleNext rfl rfl rfl, hrun]
  exact (exec_createAttemptFrom_of_latest hl).trans (if_pos (List.mem_singleton_self _))

end Attempts

end Rebill
