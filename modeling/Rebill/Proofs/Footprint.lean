import Rebill.Proofs.Plan

/-!
# What processing one attempt touches

`Plan.Within P E O p` says what a plan can do: every write it makes satisfies `P`, a billing error
it ends with satisfies `E`, and an overflow that ends it satisfies `O`. It is built up through
binds and handlers as the plans are (`Within.bind`, `Within.recover`), so that each plan of a run
gets its statement once and the plan of processing an attempt is stepped through without
unfolding a callee.

`Write.Confined a pays gw opens` is the footprint of the attempt `a`: a write that saves and
announces only `a`, writes, logs, announces and posts only payments in `pays`, asks only gateways
read from `gw`, and opens only payments in `opens`.

Main statements, for the plan of processing the attempt of a view `v`, where a payment opened for
it takes the identifier `k`:
* `Plan.process_within`: it stays within the footprint of `v.id`, of its linked payment and of
  `k`; it never ends with a systemic error; and it overflows only on the instant that bounds the
  due attempts, or, that one computed, on the instant of a retry (`View.Overflows`), so that two
  attempts that overflow overflow alike (`View.Overflows.eq`).
* `Plan.process_opened`: it opens exactly one payment when the view opens one (`View.opensPayment`), and
  none otherwise.
* `Plan.process_of_not_opens`: when it opens none, its plan does not depend on `k`.
-/

namespace Rebill

namespace Plan

variable {α β : Type} {p : Plan α} {r : Except BillingError α} {ws : List Write}

/-! ## Inverting the runs of binds and handlers -/

theorem run_bind_eq_ok {f : α → Plan β} {r : Except BillingError β} (h : (p >>= f).run = .ok (r, ws)) :
    (∃ err, r = .error err ∧ p.run = .ok (.error err, ws)) ∨
      ∃ a ws₁ ws₂, p.run = .ok (.ok a, ws₁) ∧ (f a).run = .ok (r, ws₂) ∧ ws = ws₁ ++ ws₂ := by
  rw [run_bind] at h
  rcases hp : p.run with o | ⟨err | a, ws₁⟩ <;> simp only [hp] at h
  · cases h
  · cases h
    exact .inl ⟨err, rfl, rfl⟩
  · rcases hf : (f a).run with o | ⟨r₂, ws₂⟩ <;> simp only [hf, Except.map] at h
    · cases h
    · cases h
      exact .inr ⟨a, ws₁, ws₂, rfl, hf, rfl⟩

theorem run_bind_eq_error {f : α → Plan β} {o : Overflow} (h : (p >>= f).run = .error o) :
    p.run = .error o ∨ ∃ a ws₁, p.run = .ok (.ok a, ws₁) ∧ (f a).run = .error o := by
  rw [run_bind] at h
  rcases hp : p.run with o' | ⟨err | a, ws₁⟩ <;> simp only [hp] at h
  · cases h
    exact .inl rfl
  · cases h
  · rcases hf : (f a).run with o' | ⟨r₂, ws₂⟩ <;> simp only [hf, Except.map] at h
    · cases h
      exact .inr ⟨a, ws₁, rfl, hf⟩
    · cases h

theorem run_recover_eq_ok {g : BillingError → Plan α} (h : (p.recover g).run = .ok (r, ws)) :
    (∃ a, r = .ok a ∧ p.run = .ok (.ok a, ws)) ∨
      ∃ err ws₁ ws₂, p.run = .ok (.error err, ws₁) ∧ (g err).run = .ok (r, ws₂) ∧ ws = ws₁ ++ ws₂ := by
  rw [run_recover] at h
  rcases hp : p.run with o | ⟨err | a, ws₁⟩ <;> simp only [hp] at h
  · cases h
  · rcases hg : (g err).run with o | ⟨r₂, ws₂⟩ <;> simp only [hg, Except.map] at h
    · cases h
    · cases h
      exact .inr ⟨err, ws₁, ws₂, rfl, hg, rfl⟩
  · cases h
    exact .inl ⟨a, rfl, rfl⟩

theorem run_recover_eq_error {g : BillingError → Plan α} {o : Overflow}
    (h : (p.recover g).run = .error o) :
    p.run = .error o ∨ ∃ err ws₁, p.run = .ok (.error err, ws₁) ∧ (g err).run = .error o := by
  rw [run_recover] at h
  rcases hp : p.run with o' | ⟨err | a, ws₁⟩ <;> simp only [hp] at h
  · exact .inl h
  · rcases hg : (g err).run with o' | ⟨r₂, ws₂⟩ <;> simp only [hg, Except.map] at h
    · cases h
      exact .inr ⟨err, ws₁, rfl, hg⟩
    · cases h
  · cases h

theorem run_bind_congr {f g : α → Plan β}
    (h : ∀ a ws, p.run = .ok (.ok a, ws) → (f a).run = (g a).run) : (p >>= f).run = (p >>= g).run := by
  rw [run_bind, run_bind]
  rcases hp : p.run with o | ⟨err | a, ws₁⟩
  · rfl
  · rfl
  · simp only [h a ws₁ hp]

/-! ## What a plan can do -/

/-- What a plan can do: every write it makes satisfies `P`, a billing error it ends with satisfies
`E`, and an overflow that ends it satisfies `O`. -/
structure Within (P : Write → Prop) (E : BillingError → Prop) (O : Overflow → Prop) (p : Plan α) :
    Prop where
  writes : ∀ r ws, p.run = .ok (r, ws) → ∀ w ∈ ws, P w
  errors : ∀ err ws, p.run = .ok (.error err, ws) → E err
  overflows : ∀ o, p.run = .error o → O o

end Plan

theorem Write.sum_opened_eq_zero {ws : List Write} (h : ∀ w ∈ ws, w.opened = 0) :
    (ws.map Write.opened).sum = 0 := by
  induction ws with
  | nil => rfl
  | cons w ws ih =>
    rw [List.map_cons, List.sum_cons, h w List.mem_cons_self,
      ih fun w' hw' => h w' (List.mem_cons_of_mem _ hw')]

namespace Plan

variable {α β : Type} {p : Plan α} {r : Except BillingError α} {ws : List Write}

namespace Within

variable {P P' : Write → Prop} {E E' : BillingError → Prop} {O O' : Overflow → Prop}

theorem mono (h : Within P E O p) (hP : ∀ w, P w → P' w) (hE : ∀ err, E err → E' err)
    (hO : ∀ o, O o → O' o) : Within P' E' O' p :=
  ⟨fun r ws hr w hw => hP w (h.writes r ws hr w hw), fun err ws hr => hE err (h.errors err ws hr),
    fun o hr => hO o (h.overflows o hr)⟩

theorem of_run (hrun : p.run = .ok (r, ws)) (hw : ∀ w ∈ ws, P w)
    (he : ∀ err, r = .error err → E err) : Within P E O p := by
  refine ⟨fun r' ws' h => ?_, fun err ws' h => ?_, fun o h => ?_⟩ <;> rw [hrun] at h <;> cases h
  · exact hw
  · exact he err rfl

theorem of_overflow {o : Overflow} (hrun : p.run = .error o) (ho : O o) : Within P E O p := by
  refine ⟨fun r' ws' h => ?_, fun err ws' h => ?_, fun o' h => ?_⟩ <;> rw [hrun] at h <;> cases h
  exact ho

theorem pure (a : α) : Within P E O (Pure.pure a : Plan α) :=
  of_run (run_pure a) (by simp) (by simp)

theorem write {w : Write} (h : P w) : Within P E O (Plan.write w) :=
  of_run (run_write w) (by simpa using h) (by simp)

theorem fail {err : BillingError} (h : E err) : Within P E O (Plan.fail err : Plan α) :=
  of_run (run_fail err) (by simp) (fun _ he => by cases he; exact h)

theorem found {x : Option α} {err : BillingError} (h : x = none → E err) :
    Within P E O (Plan.found x err) := by
  cases x with
  | none => exact fail (h rfl)
  | some a => exact pure a

theorem time {r : Except Overflow α} (h : ∀ o, r = .error o → O o) : Within P E O (Plan.time r) := by
  cases r with
  | error o => exact of_overflow rfl (h o rfl)
  | ok a => exact pure a

theorem lift {r : Except Overflow (Except BillingError α)} (he : ∀ err, r = .ok (.error err) → E err)
    (ho : ∀ o, r = .error o → O o) : Within P E O (Plan.lift r) := by
  rcases r with o | err | a
  · exact of_overflow rfl (ho o rfl)
  · exact of_run rfl (by simp) (fun _ h => by cases h; exact he _ rfl)
  · exact of_run rfl (by simp) (by simp)

theorem bind {f : α → Plan β} (hp : Within P E O p)
    (hf : ∀ a ws, p.run = .ok (.ok a, ws) → Within P E O (f a)) : Within P E O (p >>= f) := by
  refine ⟨fun r ws h w hw => ?_, fun err ws h => ?_, fun o h => ?_⟩
  · rcases run_bind_eq_ok h with ⟨err, -, hp'⟩ | ⟨a, ws₁, ws₂, hp', hf', rfl⟩
    · exact hp.writes _ _ hp' w hw
    · rcases List.mem_append.mp hw with hw | hw
      · exact hp.writes _ _ hp' w hw
      · exact (hf a ws₁ hp').writes _ _ hf' w hw
  · rcases run_bind_eq_ok h with ⟨err', he, hp'⟩ | ⟨a, ws₁, ws₂, hp', hf', -⟩
    · cases he
      exact hp.errors _ _ hp'
    · exact (hf a ws₁ hp').errors _ _ hf'
  · rcases run_bind_eq_error h with hp' | ⟨a, ws₁, hp', hf'⟩
    · exact hp.overflows o hp'
    · exact (hf a ws₁ hp').overflows o hf'

theorem recover {g : BillingError → Plan α} (hp : Within P E' O p)
    (hg : ∀ err ws, p.run = .ok (.error err, ws) → Within P E O (g err)) :
    Within P E O (p.recover g) := by
  refine ⟨fun r ws h w hw => ?_, fun err ws h => ?_, fun o h => ?_⟩
  · rcases run_recover_eq_ok h with ⟨a, -, hp'⟩ | ⟨err, ws₁, ws₂, hp', hg', rfl⟩
    · exact hp.writes _ _ hp' w hw
    · rcases List.mem_append.mp hw with hw | hw
      · exact hp.writes _ _ hp' w hw
      · exact (hg err ws₁ hp').writes _ _ hg' w hw
  · rcases run_recover_eq_ok h with ⟨a, ha, -⟩ | ⟨err', ws₁, ws₂, hp', hg', -⟩
    · cases ha
    · exact (hg err' ws₁ hp').errors _ _ hg'
  · rcases run_recover_eq_error h with hp' | ⟨err, ws₁, hp', hg'⟩
    · exact hp.overflows o hp'
    · exact (hg err ws₁ hp').overflows o hg'

theorem map (f : α → β) (hp : Within P E O p) : Within P E O (f <$> p) :=
  bind hp fun _ _ _ => pure _

theorem opened_eq_zero (h : Within P E O p) (hP : ∀ w, P w → w.opened = 0)
    (hrun : p.run = .ok (r, ws)) : (ws.map Write.opened).sum = 0 :=
  Write.sum_opened_eq_zero fun w hw => hP w (h.writes _ _ hrun w hw)

end Within

end Plan

/-! ## The footprint of an attempt -/

/-- The footprint of processing the attempt `a`: a write that saves and announces only `a`, writes,
logs, announces and posts only payments in `pays`, asks only gateways read from `gw`, and opens only
payments in `opens`. -/
structure Write.Confined (a : Ident) (pays : Ident → Prop) (gw : String → Option Gateway)
    (opens : Ident → Prop) (w : Write) : Prop where
  attempts : ∀ i ∈ w.attemptKeys, i = a
  payments : ∀ i ∈ w.paymentKeys, pays i
  asks : ∀ g p c, w = .charge g p c → ∃ x, gw x = some g
  creates : ∀ p, w = .create p → opens p.id

namespace Write.Confined

variable {a : Ident} {pays pays' : Ident → Prop} {gw : String → Option Gateway}
  {opens opens' : Ident → Prop}

theorem save {c : Charge} (h : c.id = a) : Confined a pays gw opens (.save c) :=
  ⟨by simp [attemptKeys, h], by simp [paymentKeys], (fun _ _ _ h => by cases h), fun _ h => by cases h⟩

theorem chargeEvent (o n : ChargeState) (op : String) :
    Confined a pays gw opens (.announce (.chargeStateChanged a o n) op) :=
  ⟨by simp [attemptKeys, BillingEvent.charge?], by simp [paymentKeys, BillingEvent.payment?],
    (fun _ _ _ h => by cases h), fun _ h => by cases h⟩

theorem tally (k : Counter) : Confined a pays gw opens (.tally k) :=
  ⟨by simp [attemptKeys], by simp [paymentKeys], (fun _ _ _ h => by cases h), fun _ h => by cases h⟩

theorem status {i : Ident} (h : pays i) (w : StatusWrite) : Confined a pays gw opens (.status i w) :=
  ⟨by simp [attemptKeys], by simp [paymentKeys, h], (fun _ _ _ h => by cases h), fun _ h => by cases h⟩

theorem paymentEvent {i : Ident} (h : pays i) (o n : PaymentStatus) (b : Bool) (op : String) :
    Confined a pays gw opens (.announce (.paymentStatusChanged i o n b) op) :=
  ⟨by simp [attemptKeys, BillingEvent.charge?], by simp [paymentKeys, BillingEvent.payment?, h],
    (fun _ _ _ h => by cases h), fun _ h => by cases h⟩

theorem post {m : StatusMessage} (h : pays m.payment) (op : String) :
    Confined a pays gw opens (.post m op) :=
  ⟨by simp [attemptKeys], by simp [paymentKeys, h], (fun _ _ _ h => by cases h), fun _ h => by cases h⟩

theorem audit {x : AuditEntry} (h : pays x.payment) : Confined a pays gw opens (.audit x) :=
  ⟨by simp [attemptKeys], by simp [paymentKeys, h], (fun _ _ _ h => by cases h), fun _ h => by cases h⟩

theorem create {p : Payment} (h : pays p.id) (ho : opens p.id) : Confined a pays gw opens (.create p) :=
  ⟨by simp [attemptKeys], by simp [paymentKeys, h], (fun _ _ _ h => by cases h), fun _ hp => by
    cases hp
    exact ho⟩

theorem charge {g : Gateway} {p : Payment} {c : Charge} {x : String} (hg : gw x = some g) :
    Confined a pays gw opens (.charge g p c) :=
  ⟨by simp [attemptKeys], by simp [paymentKeys],
    fun _ _ _ h => by cases h; exact ⟨x, hg⟩, fun _ h => by cases h⟩

theorem mono {w : Write} (h : Confined a pays gw opens w) (hp : ∀ i, pays i → pays' i)
    (ho : ∀ i, opens i → opens' i) : Confined a pays' gw opens' w :=
  ⟨h.attempts, fun i hi => hp i (h.payments i hi), h.asks, fun q hq => ho _ (h.creates q hq)⟩

theorem opened_eq_zero {w : Write} (h : Confined a pays gw (fun _ => False) w) : w.opened = 0 := by
  cases w with
  | create q => exact (h.creates q rfl).elim
  | _ => rfl

end Write.Confined

/-! ## The plans of a run, one by one -/

namespace Plan

open Write

variable {a : Ident} {pays : Ident → Prop} {gw : String → Option Gateway} {opens : Ident → Prop}
  {E : BillingError → Prop} {O : Overflow → Prop} {now : Instant}

theorem update_within {cur : Charge} {r : Except Overflow (Except BillingError Charge)}
    (hid : ∀ c, r = .ok (.ok c) → c.id = cur.id) (he : ∀ err, r = .ok (.error err) → E err)
    (ho : ∀ o, r = .error o → O o) :
    Within (Confined cur.id pays gw opens) E O (update cur r now) := by
  unfold update updateLocked
  refine .bind (.bind (.lift he ho) fun c ws hc => ?_) fun ⟨old, c⟩ _ _ => ?_
  · have hr : r = .ok (.ok c) := by
      rcases r with o | err | c'
      · cases hc
      · cases hc
      · cases hc
        rfl
    exact .bind (.bind (.write (Confined.save (hid c hr))) fun _ _ _ => .pure _) fun _ _ _ => .pure _
  · dsimp only
    split
    · exact .bind (.write (Confined.chargeEvent _ _ _)) fun _ _ _ => .pure _
    · exact .pure _

theorem moveChange_within {c : Charge} {t : ChargeState} {actor : Actor} {u : ChargeUpdate} :
    Within (Confined c.id pays gw opens) (·.isSystemic = false) O (transition c t actor u now) :=
  update_within (fun _ h => moveChange_id h)
    (fun err h => by
      unfold moveChange at h
      split at h <;> cases h
      rfl)
    (fun o h => by
      unfold moveChange at h
      split at h <;> cases h)

theorem release_within {cur : Charge} :
    Within (Confined cur.id pays gw opens) E O (release cur now) :=
  update_within (fun c h => by cases h; split <;> rfl) (fun _ h => by cases h) (fun _ h => by cases h)

theorem link_within {cur : Charge} {pid : Ident} :
    Within (Confined cur.id pays gw opens) E O (link cur pid now) :=
  .bind (update_within (fun c h => by cases h; split <;> rfl) (fun _ h => by cases h)
    (fun _ h => by cases h)) fun _ _ _ => .pure _

theorem rearm_within {cur : Charge} {delay : Span} :
    Within (Confined cur.id pays gw opens) (·.isSystemic = false)
      (fun o => shiftBy now delay = .error o) (rearm cur delay now) := by
  refine update_within (fun c h => ?_) (fun err h => ?_) (fun o h => ?_) <;> unfold rearmChange at h
  · split at h
    · cases h
    · split at h
      · cases h
        rfl
      · rcases hd : shiftBy now delay with o | due <;> rw [hd] at h <;> cases h
        rfl
  · split at h
    · cases h
      rfl
    · split at h
      · cases h
      · rcases hd : shiftBy now delay with o | due <;> rw [hd] at h <;> cases h
  · split at h
    · cases h
    · split at h
      · cases h
      · rcases hd : shiftBy now delay with o' | due <;> rw [hd] at h <;> cases h
        rfl

theorem ledger_within {q : Payment} {u : Ledger.StatusRequest} (hq : pays q.id) :
    Within (Confined a pays gw opens) E O (ledger q u now) := by
  unfold ledger applyLocked
  refine .bind ?_ fun x _ _ => ?_
  · split
    · exact .bind (.write (Confined.tally _)) fun _ _ _ => .pure _
    · split
      · exact .bind (.write (Confined.tally _)) fun _ _ _ => .pure _
      · exact .bind (.write (Confined.status hq _)) fun _ _ _ =>
          .bind (.write (Confined.tally _)) fun _ _ _ => .pure _
  · rcases x with _ | ⟨old, new⟩
    · exact .pure _
    · exact .bind (.write (Confined.paymentEvent hq _ _ _ _)) fun _ _ _ =>
        .bind (.write (Confined.post hq _)) fun _ _ _ => .pure _

theorem call_within {g : Gateway} {q : Payment} {c : Charge} {x : String} (hg : gw x = some g) :
    Within (Confined a pays gw opens) E O (call g q c) :=
  .bind (.write (Confined.charge hg)) fun _ _ _ => .pure _

theorem reply_within {delay : Span} {cur : Charge} {q : Payment} {g : Gateway} (hq : pays q.id)
    (answer : ChargeReply) :
    Within (Confined cur.id pays gw opens) (·.isSystemic = false)
      (fun o => shiftBy now delay = .error o) (reply delay now cur q g answer) := by
  rcases answer with r | r | ⟨_ | _ | _, r⟩
  · exact .bind (ledger_within hq) fun _ _ _ => .bind moveChange_within fun _ _ _ => .pure _
  · exact .bind moveChange_within fun _ _ _ => .pure _
  · refine .bind (ledger_within hq) fun _ _ _ => .bind moveChange_within fun moved _ h => ?_
    -- the attempt re-armed is the one just moved, under the same identifier
    have hid : moved.id = cur.id := by
      obtain ⟨c, hc, rfl, -⟩ := update_run h
      exact (moveChange_id hc).symm ▸ rfl
    exact .bind (hid ▸ rearm_within) fun _ _ _ => .pure _
  · exact .bind (ledger_within hq) fun _ _ _ => .bind moveChange_within fun _ _ _ => .pure _
  · exact .bind (.write (Confined.tally _)) fun _ _ _ => .bind moveChange_within fun _ _ _ => .pure _

theorem stopFast_within {cur : Charge} :
    Within (Confined cur.id pays gw opens) (·.isSystemic = false) O (stopFast cur now) :=
  .bind moveChange_within fun _ _ _ => .pure _

theorem completeAlreadyPaid_within {cur c : Charge} {q : Payment} (hq : pays q.id) :
    Within (Confined cur.id pays gw opens) (·.isSystemic = false) O (completeAlreadyPaid cur c q now) :=
  .bind moveChange_within fun _ _ _ => .write (Confined.audit hq)

theorem completeOrCall_within {c cur : Charge} {pid : Ident} {found? : Option Payment}
    (hq : ∀ q ∈ found?, pays q.id) :
    Within (Confined cur.id pays gw opens) (·.isSystemic = false) O
      (completeOrCall gw c cur pid found? now) := by
  unfold completeOrCall
  refine .bind (.found fun _ => rfl) fun q _ h => ?_
  have hq' : pays q.id := by
    cases found? with
    | none => cases h
    | some q' =>
      cases h
      exact hq _ rfl
  split
  · exact .bind (completeAlreadyPaid_within hq') fun _ _ _ => .pure _
  · exact .bind (.found fun _ => rfl) fun _ _ _ => .pure _

end Plan

/-! ## The footprint of processing an attempt -/

namespace View

variable (v : View) (k : Ident)

/-- The payments processing the attempt of `v` may touch: the one it is linked to, and the one
opened for it as `k`. -/
def Pays (i : Ident) : Prop := i = k ∨ ∃ q ∈ v.linked, i = q.id

/-- Whether processing the attempt of `v` opens a payment: the claim takes the attempt, and the
preparation opens one for it. -/
def opensPayment : Bool :=
  match (Plan.claim v.charge v.id v.now v.policy.lookahead).run with
  | .ok (.ok (some c), _) => v.opens c
  | _ => false

/-- The overflows processing the attempt of `v` can end with: of the instant that bounds the due
attempts, or, that one computed, of the instant a retry is due. -/
def Overflows (o : Overflow) : Prop :=
  shiftBy v.now v.policy.lookahead = .error o ∨
    (∃ due, shiftBy v.now v.policy.lookahead = .ok due) ∧ shiftBy v.now v.policy.retryDelay = .error o

variable {v k}

theorem Overflows.eq {v' : View} {o o' : Overflow} (h : v.Overflows o) (h' : v'.Overflows o')
    (hnow : v'.now = v.now) (hpolicy : v'.policy = v.policy) : o = o' := by
  unfold View.Overflows at h h'
  rw [hnow, hpolicy] at h'
  rcases h with h | ⟨⟨due, hdue⟩, h⟩ <;> rcases h' with h' | ⟨⟨due', hdue'⟩, h'⟩
  · exact Except.error.inj (h.symm.trans h')
  · rw [h] at hdue'
    cases hdue'
  · rw [h'] at hdue
    cases hdue
  · exact Except.error.inj (h.symm.trans h')

end View

namespace Plan

open Write

variable {α : Type} {p : Plan α} {r : Except BillingError α} {ws : List Write} {v : View}
  {c : Charge} {k : Ident}

theorem claim_within {cur? : Option Charge} {id : Ident} {now : Instant} {lookahead : Span}
    {pays : Ident → Prop} {gw : String → Option Gateway} {opens : Ident → Prop}
    (hid : ∀ cur ∈ cur?, cur.id = id) :
    Within (Confined id pays gw opens) (·.isSystemic = false)
      (fun o => shiftBy now lookahead = .error o) (claim cur? id now lookahead) := by
  unfold claim
  refine .bind (.found fun _ => rfl) fun cur _ hcur => .bind (.time fun _ h => h) fun due _ _ => ?_
  have hcid : cur.id = id := by
    cases cur? with
    | none => cases hcur
    | some cur' =>
      cases hcur
      exact hid _ rfl
  split
  · exact .pure _
  · exact .map _ (.bind (.write (Confined.save hcid)) fun _ _ _ => .pure _)

theorem claim_run_ok {cur? : Option Charge} {id : Ident} {now : Instant} {lookahead : Span}
    {x : Option Charge} (h : (claim cur? id now lookahead).run = .ok (.ok x, ws)) :
    ∃ due, shiftBy now lookahead = .ok due := by
  rcases hd : shiftBy now lookahead with o | due
  · rcases cur? with _ | cur
    · cases h
    · rw [claim, found_some, pure_bind, hd, time_error_bind] at h
      cases h
  · exact ⟨due, rfl⟩

theorem opensPayment_of_claim_some (h : (claim v.charge v.id v.now v.policy.lookahead).run =
    .ok (.ok (some c), ws)) : v.opensPayment = v.opens c := by
  unfold View.opensPayment
  rw [h]

theorem opensPayment_of_claim {r : Except BillingError (Option Charge)}
    (h : (claim v.charge v.id v.now v.policy.lookahead).run = .ok (r, ws))
    (hr : ∀ c, r ≠ .ok (some c)) : v.opensPayment = false := by
  unfold View.opensPayment
  rw [h]
  rcases r with err | _ | c
  · rfl
  · rfl
  · exact absurd rfl (hr c)

theorem prepare_within :
    Within (Confined c.id (v.Pays k) v.gateway (fun i => v.opens c = true ∧ i = k)) (·.isSystemic = false)
      (fun _ => False) (prepare v c k) := by
  unfold prepare
  split
  · exact stopFast_within
  rename_i hs
  have hstaged : (v.staged c k).id = c.id := by
    unfold View.staged
    split <;> rfl
  refine .bind ?_ fun pid ws _ => hstaged ▸ completeOrCall_within fun q hq => ?_
  · unfold paymentFor
    split
    · exact .pure _
    · rename_i hpay
      unfold openPayment
      refine .bind (.found fun _ => rfl) fun d _ hd => ?_
      have ho : v.opens c = true := by
        cases hdraft : v.draft with
        | none => rw [hdraft] at hd; cases hd
        | some d' => simp [View.opens, hs, hpay, hdraft]
      exact .bind (.bind (.write (Confined.create (.inl rfl) ⟨ho, rfl⟩)) fun _ _ _ => .pure _)
        fun _ _ _ => link_within
  · unfold View.payment at hq
    split at hq
    · obtain ⟨d, -, rfl⟩ := Option.mem_map.mp hq
      exact .inl rfl
    · exact .inr ⟨q, hq, rfl⟩

/-! ## Processing an attempt, cut after the claim -/

/-- What processing does once the claimed attempt `c` is prepared: count an outcome reached
without a call, or charge the payment handed over, act on the reply and log it. -/
def finish (v : View) (k : Ident) (c : Charge) : Run.Prepared → Plan Run.Outcome
  | .done o => do
    write (.tally (.outcome o.name))
    pure o
  | .call q g => do
    let answer ← call g q c
    let (o, r) ← reply v.policy.retryDelay v.now (v.staged c k) q g answer
    write (.audit (Run.logEntry q.id c.id r v.now))
    write (.tally (.outcome o.name))
    pure o

/-- Preparing the claimed attempt `c`, and giving the claim back when that fails. -/
def prepareOrRelease (v : View) (k : Ident) (c : Charge) : Plan Run.Prepared :=
  (prepare v c k).recover fun err => do
    let _ ← (release (v.staged c k) v.now).recover fun _ => pure c
    fail err

theorem process_eq (v : View) (k : Ident) :
    process v k = (claim v.charge v.id v.now v.policy.lookahead >>= fun x => match x with
      | some c => prepareOrRelease v k c >>= finish v k c
      | none => write (.tally (.outcome Run.Outcome.skipped.name)) >>= fun _ => pure .skipped) := by
  unfold process prepareOrRelease
  congr 1
  funext x
  rcases x with _ | c <;> rfl

theorem staged_id : (v.staged c k).id = c.id := by
  unfold View.staged
  split <;> rfl

theorem prepareOrRelease_within :
    Within (Confined c.id (v.Pays k) v.gateway (fun i => v.opens c = true ∧ i = k)) (·.isSystemic = false)
      (fun _ => False) (prepareOrRelease v k c) :=
  .recover prepare_within fun err _ herr =>
    .bind (.recover (staged_id ▸ release_within (E := fun _ => True)) fun _ _ _ => .pure _)
      fun _ _ _ => .fail (prepare_within.errors err _ herr)

theorem prepareOrRelease_run_call {q : Payment} {g : Gateway}
    (h : (prepareOrRelease v k c).run = .ok (.ok (.call q g), ws)) :
    v.Pays k q.id ∧ v.gateway q.gateway = some g := by
  obtain ⟨hq, hg, -⟩ := prepare_run_call (run_of_recover (fun err a ws => run_bind_fail _ err a) h)
  refine ⟨?_, hg⟩
  unfold View.payment at hq
  split at hq
  · obtain ⟨d, -, rfl⟩ := Option.map_eq_some_iff.mp hq
    exact .inl rfl
  · exact .inr ⟨q, hq, rfl⟩

theorem finish_within {pays : Ident → Prop} {gw : String → Option Gateway} {opens : Ident → Prop}
    {O : Overflow → Prop} (hO : ∀ o, shiftBy v.now v.policy.retryDelay = .error o → O o)
    {prepared : Run.Prepared} (hcall : ∀ q g, prepared = .call q g → pays q.id ∧ ∃ x, gw x = some g) :
    Within (Confined c.id pays gw opens) (·.isSystemic = false) O (finish v k c prepared) := by
  rcases prepared with o | ⟨q, g⟩
  · exact .bind (.write (Confined.tally _)) fun _ _ _ => .pure _
  obtain ⟨hq, x, hg⟩ := hcall q g rfl
  refine .bind (call_within hg) fun answer _ _ =>
    .bind ((staged_id ▸ reply_within hq answer).mono (fun _ h => h) (fun _ h => h) hO)
      fun ⟨o, resp⟩ _ _ => ?_
  exact .bind (.write (Confined.audit hq)) fun _ _ _ => .bind (.write (Confined.tally _))
    fun _ _ _ => .pure _

theorem process_within (hv : ∀ cur ∈ v.charge, cur.id = v.id) (k : Ident) :
    Within (Confined v.id (v.Pays k) v.gateway (fun i => v.opensPayment = true ∧ i = k))
      (·.isSystemic = false) v.Overflows (process v k) := by
  rw [process_eq]
  refine .bind ((claim_within hv).mono (fun w hw => hw.mono (fun _ h => h) fun _ (h : False) => h.elim)
    (fun _ h => h) (fun _ h => .inl h)) fun x ws₁ hx => ?_
  obtain ⟨due, hdue⟩ := claim_run_ok hx
  rcases x with _ | c
  · exact .bind (.write (Confined.tally _)) fun _ _ _ => .pure _
  obtain ⟨cur, hcur, rfl, -⟩ := claim_run_some hx
  have hcid : (cur.savedOver { cur with status := some inFlight } v.now).id = v.id := hv cur hcur
  refine .bind ((hcid ▸ prepareOrRelease_within).mono (fun w hw => hw.mono (fun _ h => h)
    fun _ h => ⟨(opensPayment_of_claim_some hx).trans h.1, h.2⟩) (fun _ h => h) (fun _ h => h.elim))
    fun prepared _ hp => ?_
  -- an overflow after the claim is that of a retry, the due instant being known
  refine hcid ▸ finish_within (fun o h => .inr ⟨⟨due, hdue⟩, h⟩) fun q g hq => ?_
  subst hq
  obtain ⟨hpays, hg⟩ := prepareOrRelease_run_call hp
  exact ⟨hpays, _, hg⟩

/-! ## How many payments processing opens -/

theorem Within.confined_opened {a : Ident} {pays : Ident → Prop} {gw : String → Option Gateway}
    {E : BillingError → Prop} {O : Overflow → Prop} (h : Within (Confined a pays gw (fun _ => False)) E O p)
    (hrun : p.run = .ok (r, ws)) : (ws.map Write.opened).sum = 0 :=
  h.opened_eq_zero (fun _ hw => hw.opened_eq_zero) hrun

theorem prepare_opened {r : Except BillingError Run.Prepared} (h : (prepare v c k).run = .ok (r, ws)) :
    (ws.map Write.opened).sum = if v.opens c then 1 else 0 := by
  unfold prepare at h
  split at h
  · rename_i hs
    have ho : v.opens c = false := by simp [View.opens, hs]
    have hw : Within (Confined c.id (fun _ => False) v.gateway (fun _ => False)) (·.isSystemic = false)
        (fun _ => True) (stopFast c v.now) := stopFast_within
    simp [ho, hw.confined_opened h]
  rename_i hs
  rcases run_bind_eq_ok h with ⟨err, -, hpf⟩ | ⟨pid, ws₁, ws₂, hpf, hcc, rfl⟩
  · obtain ⟨-, hd, rfl⟩ := paymentFor_run_error hpf
    have ho : v.opens c = false := by simp [View.opens, hd]
    simp [ho]
  have hw : Within (Confined (v.staged c k).id (fun _ => True) v.gateway (fun _ => False))
      (·.isSystemic = false) (fun _ => False)
      (completeOrCall v.gateway c (v.staged c k) pid (v.payment c k) v.now) :=
    completeOrCall_within fun _ _ => trivial
  have h₂ := hw.confined_opened hcc
  rcases paymentFor_run hpf with ⟨hpay, rfl⟩ | ⟨hpay, rfl, d, hd, rfl⟩
  · have ho : v.opens c = false := by simp [View.opens, hpay]
    simp [ho, h₂]
  · have ho : v.opens c = true := by simp [View.opens, hs, hpay, hd]
    simp [ho, h₂, Write.opened]

theorem prepareOrRelease_opened {r : Except BillingError Run.Prepared}
    (h : (prepareOrRelease v k c).run = .ok (r, ws)) :
    (ws.map Write.opened).sum = if v.opens c then 1 else 0 := by
  rcases run_recover_eq_ok h with ⟨a, -, hp⟩ | ⟨err, ws₁, ws₂, hp, hh, rfl⟩
  · exact prepare_opened hp
  · have hw : Within (Confined (v.staged c k).id (fun _ => True) v.gateway (fun _ => False)) (fun _ => True)
        (fun _ => True) (((release (v.staged c k) v.now).recover fun _ => pure c) >>= fun _ =>
          (fail err : Plan Run.Prepared)) :=
      .bind (.recover (release_within (E := fun _ => True)) fun _ _ _ => .pure _) fun _ _ _ =>
        .fail trivial
    rw [List.map_append, List.sum_append, prepare_opened hp, hw.confined_opened hh, Nat.add_zero]

theorem finish_opened {prepared : Run.Prepared} {r : Except BillingError Run.Outcome}
    (h : (finish v k c prepared).run = .ok (r, ws)) : (ws.map Write.opened).sum = 0 := by
  rcases prepared with o | ⟨q, g⟩
  · have hw : Within (Confined c.id (fun _ => True) (fun _ => none) (fun _ => False)) (·.isSystemic = false)
        (fun _ => True) (finish v k c (.done o)) := finish_within (fun _ _ => trivial) fun _ _ h => by
      cases h
    exact hw.confined_opened h
  · have hw : Within (Confined c.id (fun _ => True) (fun _ => some g) (fun _ => False)) (·.isSystemic = false)
        (fun _ => True) (finish v k c (.call q g)) := finish_within (fun _ _ => trivial) fun _ _ h => by
      cases h
      exact ⟨trivial, "", rfl⟩
    exact hw.confined_opened h

theorem process_opened (hv : ∀ cur ∈ v.charge, cur.id = v.id) {r : Except BillingError Run.Outcome}
    (h : (process v k).run = .ok (r, ws)) :
    (ws.map Write.opened).sum = if v.opensPayment then 1 else 0 := by
  have hclaim : Within (Confined v.id (fun _ => True) v.gateway (fun _ => False)) (·.isSystemic = false)
      (fun _ => True) (claim v.charge v.id v.now v.policy.lookahead) :=
    (claim_within hv).mono (fun _ h => h) (fun _ h => h) (fun _ _ => trivial)
  rw [process_eq] at h
  rcases run_bind_eq_ok h with ⟨err, -, hx⟩ | ⟨x, ws₁, ws₂, hx, hrest, rfl⟩
  · -- the claim failed: nothing was opened
    rw [opensPayment_of_claim hx (fun _ h => by cases h), hclaim.confined_opened hx]
    rfl
  rw [List.map_append, List.sum_append, hclaim.confined_opened hx, Nat.zero_add]
  rcases x with _ | c
  · -- nothing was claimed: only the skip is counted
    have hw : Within (Confined v.id (fun _ => True) v.gateway (fun _ => False)) (·.isSystemic = false)
        (fun _ => True) (write (.tally (.outcome Run.Outcome.skipped.name)) >>= fun _ =>
          (Pure.pure .skipped : Plan Run.Outcome)) :=
      .bind (.write (Confined.tally _)) fun _ _ _ => .pure _
    rw [opensPayment_of_claim hx (fun _ h => by cases h), hw.confined_opened hrest]
    rfl
  rcases run_bind_eq_ok hrest with ⟨err, -, hp⟩ | ⟨prepared, ws₃, ws₄, hp, hf, rfl⟩
  · rw [prepareOrRelease_opened hp, opensPayment_of_claim_some hx]
  · rw [List.map_append, List.sum_append, prepareOrRelease_opened hp, finish_opened hf, Nat.add_zero,
      opensPayment_of_claim_some hx]

/-! ## A plan that opens nothing does not depend on the identifier it would give -/

section NotOpens

variable (ho : v.opens c = false) (k₁ k₂ : Ident)
include ho

theorem staged_of_not_opens : v.staged c k₁ = v.staged c k₂ := by
  simp [View.staged, ho]

theorem prepare_of_not_opens : prepare v c k₁ = prepare v c k₂ := by
  have hp : v.payment c k₁ = v.payment c k₂ := by simp [View.payment, ho]
  unfold prepare
  split
  · rfl
  rename_i hs
  rw [staged_of_not_opens ho k₁ k₂, hp]
  congr 1
  unfold paymentFor
  split
  · rfl
  rename_i hpay
  -- not stopped and not linked, the attempt opens no payment only when its parent is missing
  have hd : v.draft = none := by
    cases hdraft : v.draft with
    | none => rfl
    | some d => simp [View.opens, hs, hpay, hdraft] at ho
  rw [hd]
  rfl

theorem prepareOrRelease_of_not_opens : prepareOrRelease v k₁ c = prepareOrRelease v k₂ c := by
  unfold prepareOrRelease
  rw [prepare_of_not_opens ho k₁ k₂, staged_of_not_opens ho k₁ k₂]

theorem finish_of_not_opens : finish v k₁ c = finish v k₂ c := by
  funext prepared
  rcases prepared with o | ⟨q, g⟩
  · rfl
  · simp only [finish, staged_of_not_opens ho k₁ k₂]

end NotOpens

theorem process_of_not_opens (h : v.opensPayment = false) (k₁ k₂ : Ident) :
    (process v k₁).run = (process v k₂).run := by
  rw [process_eq, process_eq]
  refine run_bind_congr fun x ws hx => ?_
  rcases x with _ | c
  · rfl
  have ho : v.opens c = false := (opensPayment_of_claim_some hx).symm.trans h
  show (prepareOrRelease v k₁ c >>= finish v k₁ c).run = (prepareOrRelease v k₂ c >>= finish v k₂ c).run
  rw [prepareOrRelease_of_not_opens ho k₁ k₂, finish_of_not_opens ho k₁ k₂]

end Plan

end Rebill
