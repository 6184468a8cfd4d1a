import Rebill.Proofs.AuditTrail

/-!
# Duplicate callbacks

A gateway may call back more than once with the result of one pending charge, and the callbacks
may run at the same time. A callback is not one atomic step. It checks, holding no lock, that the
attempt is pending; then the ledger changes the payment, the registry moves the attempt, a failed
attempt is re-armed, and the audit line is written, each in a section of its own. `resolvePending`
is this check followed by the four sections (`resolvePending_eq`).

`Callback` is where a callback stands between two sections, and `Callback.step` runs its next
section, so that any number of callbacks on one attempt can be interleaved section by section
(`Callback.concurrent`). One callback run alone is `resolvePending` (`Callback.single_eq_finish`).

Callbacks end as one when the others check after one of them has moved the attempt out of
`pending`: from then on each other is refused and changes nothing, whatever the order of the
rest (`Callback.EndsAsOne`). The invariant that carries this is `Callback.Ahead`: the callback
that moved is `Callback.Past` the move, meaning it has moved the attempt or has ended where the
check refuses, and none of its later sections brings the attempt back to `pending`; every other
has not checked yet or was refused. When two callbacks check before either moves the attempt,
nothing stops the second one: it goes through the ledger, the move and the audit line again, and
a failed attempt is re-armed twice.
-/

namespace Rebill

namespace Run

open Svc Attempts Engine

/-- The check a callback makes before it changes anything, holding no lock: the attempt is
pending, linked to a stored payment, and the payment's gateway is registered. -/
def pendingCheck (id : Ident) (succeeded : Bool) : Svc (Ident × Payment × Gateway) := do
  let c ← Attempts.get id
  let target : ChargeState := if succeeded then .charged else .chargeFailed
  if c.state != .pending then throw (.illegalTransition c.state target)
  let some pid := c.payment
    | throw (.notFound ("Payment for pending attempt " ++ id.text))
  let some p := (← store).payment? pid
    | throw (.notFound ("Payment " ++ pid.text))
  let g ← requireGateway p.gateway
  pure (pid, p, g)

/-- A callback is its check followed by four sections: the ledger's change of the payment, the
move of the attempt, re-arming it when the charge failed, and the audit line with the count of
the outcome. -/
theorem resolvePending_eq (id : Ident) (succeeded : Bool) (r : GatewayResponse) :
    resolvePending id succeeded r =
      pendingCheck id succeeded >>= fun (pid, p, g) =>
        (if succeeded then settle p g r else fail p r true) >>= fun _ =>
        Attempts.transition id (if succeeded then .charged else .chargeFailed) .system
          { status := some r.code } >>= fun c =>
        (if succeeded then pure c else Attempts.rearmFailed id) >>= fun c =>
        appendLog pid id r >>= fun _ =>
        count (.outcome (if succeeded then "charged" else "failed")) >>= fun _ => pure c := by
  unfold resolvePending pendingCheck
  simp only [bind_assoc]
  congr 1
  funext c
  -- the check of the state is the same on both sides; a refused check throws before the rest
  split
  · rfl
  · cases c.payment with
    | none => rfl
    | some pid =>
      simp only [bind_assoc]
      congr 1
      funext st
      cases st.payment? pid with
      | none => rfl
      | some p =>
        simp only [bind_assoc, pure_bind]
        congr 1
        funext g
        cases succeeded <;> simp

/-- Where a callback stands: before its check, before one of its four sections, or ended, with
the attempt it resolved or the error that stopped it. -/
inductive Callback where
  | check
  | ledger (pid : Ident) (p : Payment) (g : Gateway)
  | move (pid : Ident)
  | rearm (pid : Ident) (moved : Charge)
  | log (pid : Ident) (resolved : Charge)
  | done (result : Except BillingError Charge)

namespace Callback

def left : Callback → Nat
  | .check => 5
  | .ledger .. => 4
  | .move _ => 3
  | .rearm .. => 2
  | .log .. => 1
  | .done _ => 0

/-- A section that fails ends the callback with its error. -/
def ending (m : Svc Callback) : Svc Callback :=
  tryCatch m fun err => pure (.done (.error err))

section Sections

variable (id : Ident) (succeeded : Bool) (r : GatewayResponse)

/-- Runs the next section of a callback with the result `succeeded` and the answer `r` for the
attempt `id`: the operation of the section, and where the callback stands after it. -/
def step : Callback → Svc Callback
  | .check => ending ((fun (pid, p, g) => .ledger pid p g) <$> pendingCheck id succeeded)
  | .ledger pid p g =>
    ending ((fun _ => .move pid) <$> if succeeded then settle p g r else fail p r true)
  | .move pid =>
    ending (.rearm pid <$> Attempts.transition id (if succeeded then .charged else .chargeFailed)
      .system { status := some r.code })
  | .rearm pid c => ending (.log pid <$> if succeeded then pure c else Attempts.rearmFailed id)
  | .log pid c =>
    ending ((fun _ => .done (.ok c)) <$> do
      appendLog pid id r
      count (.outcome (if succeeded then "charged" else "failed")))
  | .done result => pure (.done result)

def steps : Nat → Callback → Svc Callback
  | 0, w => pure w
  | n + 1, w => do steps n (← step id succeeded r w)

def finish (w : Callback) : Svc Callback := steps id succeeded r w.left w

/-- Runs the next section of the callback at position `j`, when there is one there. -/
def stepAt (j : Nat) (ws : List Callback) : Svc (List Callback) :=
  match ws[j]? with
  | some w => (ws.set j ·) <$> step id succeeded r w
  | none => pure ws

/-- Runs callbacks to their ends, one after the other in the list's order. -/
def finishAll : List Callback → Svc (List Callback)
  | [] => pure []
  | w :: ws => do
    let a ← finish id succeeded r w
    (a :: ·) <$> finishAll ws

/-- Callbacks, section by section: at each turn the callback at the turn's position runs its next
section; when the turns run out, each runs to its end in the list's order. -/
def interleave : List Nat → List Callback → Svc (List Callback)
  | [], ws => finishAll id succeeded r ws
  | j :: turns, ws => do interleave turns (← stepAt id succeeded r j ws)

/-- `k` callbacks with the same result and answer for one attempt, run at the same time: their
sections interleaved by the turns, then each run to its end. -/
def concurrent (k : Nat) (turns : List Nat) : Svc (List Callback) :=
  interleave id succeeded r turns (List.replicate k .check)

/-- One callback run as a whole, ending with what it returns or the error that stopped it. -/
def single : Svc Callback :=
  ending ((fun c => .done (.ok c)) <$> resolvePending id succeeded r)

end Sections

/-- Callbacks end as the one at position `i` alone: all stop on the same overflow, or they end in
the same engine, the one at `i` as the one alone does and every other refused. -/
inductive EndsAsOne (i : Nat) : Except Overflow (Except BillingError (List Callback) × Engine) →
    Except Overflow (Except BillingError Callback × Engine) → Prop
  | stop (o : Overflow) : EndsAsOne i (.error o) (.error o)
  | refused (ws : List Callback) (a : Callback) (e : Engine) (ha : ws[i]? = some a)
      (hrest : ∀ j b, j ≠ i → ws[j]? = some b → ∃ err, b = .done (.error err)) :
      EndsAsOne i (.ok (.ok ws, e)) (.ok (.ok a, e))

/-- A callback that has not checked yet, or that the check refused. -/
def Idle (b : Callback) : Prop := b = .check ∨ ∃ err, b = .done (.error err)

/-! ## One section at a time -/

variable {id : Ident} {s : Bool} {r : GatewayResponse} {e : Engine}

theorem exec_ending_map {α : Type} (f : α → Callback) (m : Svc α) (e : Engine) :
    (ending (f <$> m)).exec e = match m.exec e with
      | .ok (.ok a, e₁) => .ok (.ok (f a), e₁)
      | .ok (.error err, e₁) => .ok (.ok (.done (.error err)), e₁)
      | .error o => .error o := by
  unfold ending
  rw [exec_tryCatch, exec_map]
  rcases m.exec e with o | ⟨_ | a, e₁⟩ <;> rfl

theorem steps_done (n : Nat) (x : Except BillingError Charge) :
    steps id s r n (.done x) = pure (.done x) := by
  induction n with
  | zero => rfl
  | succ n ih => simp only [steps, step, pure_bind, ih]

theorem step_ok {w : Callback} {x : Except BillingError Callback} {e' : Engine}
    (h : (step id s r w).exec e = .ok (x, e')) : ∃ w', x = .ok w' := by
  cases w <;> simp only [step] at h
  case done => cases h; exact ⟨_, rfl⟩
  all_goals
    rw [exec_ending_map] at h
    split at h <;> cases h <;> exact ⟨_, rfl⟩

theorem exec_steps_succ (n : Nat) (w : Callback) (e : Engine) :
    (steps id s r (n + 1) w).exec e = match (step id s r w).exec e with
      | .ok (.ok w', e') => (steps id s r n w').exec e'
      | .ok (.error err, e') => .ok (.error err, e')
      | .error o => .error o := by
  rw [steps, exec_bind]
  rcases (step id s r w).exec e with o | ⟨_ | w', e'⟩ <;> rfl

theorem exec_finish (w : Callback) (e : Engine) :
    (finish id s r w).exec e = match (step id s r w).exec e with
      | .ok (.ok w', e') => (finish id s r w').exec e'
      | .ok (.error err, e') => .ok (.error err, e')
      | .error o => .error o := by
  cases w with
  | done x => rfl
  | _ =>
    simp only [finish, left]
    rw [exec_steps_succ]
    rcases hx : (step id s r _).exec e with o | ⟨_ | w', e'⟩
    · rfl
    · rfl
    · -- the section either moved the callback to the next stage or ended it
      simp only [step] at hx
      rw [exec_ending_map] at hx
      split at hx <;> cases hx <;> simp [steps_done]

theorem exec_single (id : Ident) (s : Bool) (r : GatewayResponse) (e : Engine) :
    (single id s r).exec e =
      ((resolvePending id s r).exec e).map fun x => (.ok (.done x.1), x.2) := by
  unfold single
  rw [exec_ending_map]
  rcases (resolvePending id s r).exec e with o | ⟨_ | c, e'⟩ <;> rfl

theorem steps_section {w : Callback} {α : Type} {m : Svc α} {f : α → Callback}
    {k : α → Svc Charge} {n : Nat} (hw : step id s r w = ending (f <$> m))
    (hk : ∀ a e₁, (steps id s r n (f a)).exec e₁ =
      ((k a).exec e₁).map fun x => (.ok (.done x.1), x.2)) (e : Engine) :
    (steps id s r (n + 1) w).exec e = ((m >>= k).exec e).map fun x => (.ok (.done x.1), x.2) := by
  rw [exec_steps_succ, hw, exec_ending_map, exec_bind]
  rcases m.exec e with o | ⟨_ | a, e₁⟩
  · rfl
  · simp [steps_done]
    rfl
  · exact hk a e₁

theorem single_eq_finish (id : Ident) (s : Bool) (r : GatewayResponse) (e : Engine) :
    (single id s r).exec e = (finish id s r .check).exec e := by
  rw [exec_single, resolvePending_eq]
  symm
  refine steps_section (f := fun (pid, p, g) => .ledger pid p g) rfl (fun x e₁ => ?_) e
  obtain ⟨pid, p, g⟩ := x
  refine steps_section (f := fun _ => .move pid) rfl (fun _ e₂ => ?_) e₁
  refine steps_section (f := .rearm pid) rfl (fun c e₃ => ?_) e₂
  refine steps_section (f := .log pid) rfl (fun c e₄ => ?_) e₃
  -- the audit line and the count cannot fail
  rw [exec_steps_succ]
  simp only [step]
  rw [exec_ending_map]
  simp only [exec_bind, exec_appendLog, exec_count, exec_pure]
  rfl

/-! ## The check, and what keeps refusing it -/

def Refuses (id : Ident) (s : Bool) (e : Engine) : Prop :=
  ∃ err, (pendingCheck id s).exec e = .ok (.error err, e)

theorem pendingCheck_cases (id : Ident) (s : Bool) (e : Engine) :
    Refuses id s e ∨
      ∃ c pid p g, e.store.charge? id = some c ∧ c.state = .pending ∧ c.payment = some pid ∧
        e.store.payment? pid = some p ∧ e.gateways.get? p.gateway = some g ∧
        (pendingCheck id s).exec e = .ok (.ok (pid, p, g), e) := by
  unfold Refuses pendingCheck
  rw [exec_bind, Attempts.exec_get]
  cases hc : e.store.charge? id with
  | none => exact .inl ⟨_, rfl⟩
  | some c =>
    simp only
    by_cases hs : c.state = .pending
    · have hcheck : (c.state != .pending) = false := by simp [hs]
      simp only [hcheck, Bool.false_eq_true, if_false]
      cases hpay : c.payment with
      | none => exact .inl ⟨_, rfl⟩
      | some pid =>
        simp only
        rw [exec_bind, exec_store]
        simp only
        cases hp : e.store.payment? pid with
        | none => exact .inl ⟨_, rfl⟩
        | some p =>
          simp only
          rw [exec_bind, exec_requireGateway]
          cases hg : e.gateways.get? p.gateway with
          | none => exact .inl ⟨_, rfl⟩
          | some g => exact .inr ⟨c, pid, p, g, rfl, hs, hpay, hp, hg, rfl⟩
    · have hcheck : (c.state != .pending) = true := by simp [hs]
      simp only [hcheck, if_true]
      exact .inl ⟨_, rfl⟩

theorem refuses_of_not_pending {c : Charge} (hc : e.store.charge? id = some c)
    (hs : c.state ≠ .pending) : Refuses id s e := by
  rcases pendingCheck_cases id s e with h | ⟨c', -, -, -, hc', hpend, -⟩
  · exact h
  · rw [hc] at hc'
    cases hc'
    exact absurd hpend hs

theorem rearmFailed_not_pending {c : Charge} {x : Except BillingError Charge} {e' : Engine}
    (hc : e.store.charge? id = some c) (hs : c.state ≠ .pending)
    (h : (rearmFailed id).exec e = .ok (x, e')) :
    ∃ c', e'.store.charge? id = some c' ∧ c'.state ≠ .pending := by
  unfold rearmFailed at h
  have hx := exec_bind_read (exec_policy e) h
  obtain rfl | ⟨c₀, c', v, s', hc₀, ⟨hid, hst⟩, hsave, -, rfl⟩ :=
    update_cases (P := fun c c' => c'.id = c.id ∧ (c'.state = c.state ∨ c'.state = .active))
      (fun c => by
        refine reads_ite (fun _ => reads_throw_bind _) fun _ =>
          reads_ite (fun _ => reads_pure ⟨rfl, .inl rfl⟩) fun _ => ?_
        exact reads_bind reads_now fun _ _ => reads_bind (reads_time _) fun _ _ =>
          reads_pure ⟨rfl, .inr rfl⟩) hx
  · exact ⟨c, hc, hs⟩
  · rw [hc] at hc₀
    cases hc₀
    obtain ⟨hread, -, hvst, -⟩ := Store.saveCharge_read e.store hsave
    refine ⟨v, ?_, ?_⟩
    · rw [afterUpdate_store, ← Store.id_of_charge? e.store hc, ← hid]
      exact hread
    · rw [hvst]
      rcases hst with h | h <;> rw [h]
      · exact hs
      · decide

/-- The first callback is past the move: it has moved the attempt out of `pending`, or has ended
where the check refuses. -/
def Past (id : Ident) (s : Bool) (e : Engine) : Callback → Prop
  | .rearm .. | .log .. => ∃ c, e.store.charge? id = some c ∧ c.state ≠ .pending
  | .done _ => Refuses id s e
  | _ => False

theorem Past.refuses {w : Callback} (h : Past id s e w) : Refuses id s e := by
  cases w with
  | rearm | log =>
    obtain ⟨c, hc, hs⟩ := h
    exact refuses_of_not_pending hc hs
  | done => exact h
  | _ => exact h.elim

theorem Past.after_step {w w' : Callback} {e' : Engine} (hw : Past id s e w)
    (h : (step id s r w).exec e = .ok (.ok w', e')) : Past id s e' w' := by
  cases w with
  | rearm pid c =>
    obtain ⟨c₀, hc₀, hs₀⟩ := hw
    simp only [step] at h
    rw [exec_ending_map] at h
    cases s with
    | true =>
      cases h
      exact ⟨c₀, hc₀, hs₀⟩
    | false =>
      simp only [Bool.false_eq_true, if_false] at h
      split at h <;> cases h
      · next hx => exact rearmFailed_not_pending hc₀ hs₀ hx
      · next hx =>
        obtain ⟨c', hc', hs'⟩ := rearmFailed_not_pending hc₀ hs₀ hx
        exact refuses_of_not_pending hc' hs'
  | log pid c =>
    obtain ⟨c₀, hc₀, hs₀⟩ := hw
    simp only [step] at h
    rw [exec_ending_map] at h
    simp only [exec_bind, exec_appendLog, exec_count] at h
    cases h
    -- the audit line and the count leave the attempts alone
    exact refuses_of_not_pending hc₀ hs₀
  | done x =>
    cases h
    exact hw
  | _ => exact hw.elim

theorem steps_ok {n : Nat} {w : Callback} {x : Except BillingError Callback} {e' : Engine}
    (h : (steps id s r n w).exec e = .ok (x, e')) : ∃ w', x = .ok w' := by
  induction n generalizing w e with
  | zero =>
    cases h
    exact ⟨w, rfl⟩
  | succ n ih =>
    rw [exec_steps_succ] at h
    rcases hst : (step id s r w).exec e with o | ⟨x₁, e₁⟩ <;> rw [hst] at h
    · cases h
    · obtain ⟨w₁, rfl⟩ := step_ok hst
      exact ih h

theorem Past.after_steps {n : Nat} {w w' : Callback} {e' : Engine} (hw : Past id s e w)
    (h : (steps id s r n w).exec e = .ok (.ok w', e')) : Past id s e' w' := by
  induction n generalizing w e with
  | zero =>
    cases h
    exact hw
  | succ n ih =>
    rw [exec_steps_succ] at h
    rcases hst : (step id s r w).exec e with o | ⟨x₁, e₁⟩ <;> rw [hst] at h
    · cases h
    · obtain ⟨w₁, rfl⟩ := step_ok hst
      exact ih (hw.after_step hst) h

theorem step_idle {b : Callback} (he : Refuses id s e) (hb : Idle b) :
    ∃ err, (step id s r b).exec e = .ok (.ok (.done (.error err)), e) := by
  obtain ⟨err, hchk⟩ := he
  rcases hb with rfl | ⟨err', rfl⟩
  · refine ⟨err, ?_⟩
    simp only [step]
    rw [exec_ending_map, hchk]
  · exact ⟨err', rfl⟩

theorem finish_refused {b : Callback} (he : Refuses id s e) (hb : Idle b) :
    ∃ err, (finish id s r b).exec e = .ok (.ok (.done (.error err)), e) := by
  obtain ⟨err, hst⟩ := step_idle (r := r) he hb
  exact ⟨err, by rw [exec_finish, hst]; rfl⟩

theorem finishAll_idle {bs : List Callback} (he : Refuses id s e) (hbs : ∀ b ∈ bs, Idle b) :
    ∃ bs', (finishAll id s r bs).exec e = .ok (.ok bs', e) ∧
      ∀ b ∈ bs', ∃ err, b = .done (.error err) := by
  induction bs with
  | nil => exact ⟨[], rfl, by simp⟩
  | cons b bs ih =>
    obtain ⟨err, hb⟩ := finish_refused (r := r) he (hbs b (by simp))
    obtain ⟨bs', hbs', hdone⟩ := ih fun b hb => hbs b (by simp [hb])
    refine ⟨.done (.error err) :: bs', ?_, ?_⟩
    · rw [finishAll, exec_bind, hb]
      simp only
      rw [exec_map, hbs']
    · simp only [List.mem_cons, forall_eq_or_imp]
      exact ⟨⟨err, rfl⟩, hdone⟩

/-! ## Callbacks after the first move -/

theorem EndsAsOne.cons {i : Nat} {m : Svc (List Callback)} {y} (h : EndsAsOne i (m.exec e) y)
    (err : BillingError) :
    EndsAsOne (i + 1) (((Callback.done (.error err) :: ·) <$> m).exec e) y := by
  rw [exec_map]
  generalize m.exec e = x at h
  cases h with
  | stop o => exact .stop o
  | refused ws a e' ha hrest =>
    refine .refused _ a e' ha fun j b hj hb => ?_
    cases j with
    | zero => exact ⟨err, (Option.some.inj hb).symm⟩
    | succ j => exact hrest j b (by omega) hb

/-- The callback at position `i` is past the move, and every other has not checked yet or was
refused. -/
structure Ahead (id : Ident) (s : Bool) (i : Nat) (e : Engine) (ws : List Callback) (w : Callback) :
    Prop where
  at_i : ws[i]? = some w
  past : Past id s e w
  idle : ∀ j b, j ≠ i → ws[j]? = some b → Idle b

theorem finishAll_ahead {ws : List Callback} {w : Callback} {i : Nat} (h : Ahead id s i e ws w) :
    EndsAsOne i ((finishAll id s r ws).exec e) ((finish id s r w).exec e) := by
  induction ws generalizing i with
  | nil => cases h.at_i
  | cons b bs ih =>
    cases i with
    | zero =>
      obtain rfl : b = w := Option.some.inj h.at_i
      rw [finishAll, exec_bind]
      rcases hf : (finish id s r b).exec e with o | ⟨x, e'⟩
      · exact .stop o
      · obtain ⟨w', rfl⟩ := steps_ok hf
        -- after the one past the move, every other is refused
        have hidle : ∀ c ∈ bs, Idle c := fun c hc => by
          obtain ⟨j, hj⟩ := List.mem_iff_getElem?.mp hc
          exact h.idle (j + 1) c (by omega) hj
        obtain ⟨bs', hbs', hdone⟩ := finishAll_idle (r := r) (h.past.after_steps hf).refuses hidle
        simp only
        rw [exec_map, hbs']
        refine .refused _ w' e' rfl fun j c hj hc => ?_
        cases j with
        | zero => exact absurd rfl hj
        | succ j => exact hdone c (List.mem_of_getElem? hc)
    | succ i =>
      -- the callback in front is refused and changes nothing
      obtain ⟨err, hb⟩ := finish_refused (r := r) h.past.refuses (h.idle 0 b (by omega) rfl)
      rw [finishAll, exec_bind, hb]
      exact (ih ⟨h.at_i, h.past, fun j c hj hc => h.idle (j + 1) c (by omega) hc⟩).cons err

theorem exec_interleave_none {ws : List Callback} {j : Nat} (hj : ws[j]? = none)
    (turns : List Nat) (e : Engine) :
    (interleave id s r (j :: turns) ws).exec e = (interleave id s r turns ws).exec e := by
  rw [interleave, exec_bind, stepAt, hj]
  rfl

theorem exec_interleave_of {ws : List Callback} {j : Nat} {w : Callback} (hj : ws[j]? = some w)
    (turns : List Nat) (e : Engine) :
    (interleave id s r (j :: turns) ws).exec e = match (step id s r w).exec e with
      | .ok (.ok w', e') => (interleave id s r turns (ws.set j w')).exec e'
      | .ok (.error err, e') => .ok (.error err, e')
      | .error o => .error o := by
  rw [interleave, exec_bind, stepAt, hj]
  dsimp only
  rw [exec_map]
  rcases (step id s r w).exec e with o | ⟨_ | w', e'⟩ <;> rfl

theorem interleave_ahead (turns : List Nat) {ws : List Callback} {w : Callback} {i : Nat}
    {e : Engine} (h : Ahead id s i e ws w) :
    EndsAsOne i ((interleave id s r turns ws).exec e) ((finish id s r w).exec e) := by
  induction turns generalizing ws w e with
  | nil => exact finishAll_ahead h
  | cons j turns ih =>
    rcases hj : ws[j]? with _ | b
    · rw [exec_interleave_none hj]
      exact ih h
    have hlt : j < ws.length := (List.getElem?_eq_some_iff.mp hj).1
    rw [exec_interleave_of hj]
    by_cases hji : j = i
    · -- the turn of the one past the move: it stays past it
      subst hji
      obtain rfl : b = w := Option.some.inj (hj.symm.trans h.at_i)
      rw [exec_finish]
      rcases hst : (step id s r b).exec e with o | ⟨x, e'⟩
      · exact .stop o
      · obtain ⟨w', rfl⟩ := step_ok hst
        refine ih ⟨List.getElem?_set_self hlt, h.past.after_step hst, fun k c hk hc => ?_⟩
        rw [List.getElem?_set_ne (Ne.symm hk)] at hc
        exact h.idle k c hk hc
    · -- the turn of another: refused where the check refuses
      obtain ⟨err, hst⟩ := step_idle (r := r) h.past.refuses (h.idle j b hji hj)
      rw [hst]
      refine ih ⟨by rw [List.getElem?_set_ne hji]; exact h.at_i, h.past, fun k c hk hc => ?_⟩
      by_cases hkj : k = j
      · subst hkj
        rw [List.getElem?_set_self hlt] at hc
        exact .inr ⟨err, (Option.some.inj hc).symm⟩
      · rw [List.getElem?_set_ne (Ne.symm hkj)] at hc
        exact h.idle k c hk hc

theorem step_ledger_ok (id : Ident) (s : Bool) (r : GatewayResponse) (pid : Ident) (p : Payment)
    (g : Gateway) (hkey : Ledger.paymentKey p.id ∉ e.held) (hp : e.store.payment? p.id ≠ none) :
    ∃ e', (step id s r (.ledger pid p g)).exec e = .ok (.ok (.move pid), e') ∧ e'.held = e.held ∧
      ∀ x, e'.store.charge? x = e.store.charge? x := by
  obtain ⟨u, hu⟩ : ∃ u, (if s then settle p g r else fail p r true) = Ledger.updateStatus p.id u := by
    cases s
    · exact ⟨_, rfl⟩
    · exact ⟨_, rfl⟩
  obtain ⟨b, e', hx⟩ := Ledger.updateStatus_ok (u := u) hkey hp
  refine ⟨e', ?_, (KeepsTrail.keepsAt_updateStatus p.id u e _ _ hx).held,
    Ledger.charge?_of_updateStatus hx⟩
  simp only [step]
  rw [exec_ending_map, hu, hx]

theorem step_move_past (id : Ident) (s : Bool) (r : GatewayResponse) (pid : Ident) {c : Charge}
    (hkey : chargeKey id ∉ e.held)
    (hc : e.store.charge? id = some c) (hpend : c.state = .pending) :
    ∃ moved e', (step id s r (.move pid)).exec e = .ok (.ok (.rearm pid moved), e') ∧
      Past id s e' (.rearm pid moved) := by
  have ha : c.state.allows (if s then .charged else .chargeFailed) .system = true := by
    rw [hpend]
    cases s <;> rfl
  obtain ⟨v, s', -, hx⟩ := transition_ok (u := { status := some r.code }) hkey hc ha
  obtain ⟨c', hc', hst', -⟩ := transition_stored hkey hc ha hx
  refine ⟨v, _, ?_, c', hc', ?_⟩
  · simp only [step]
    rw [exec_ending_map, hx]
  · rw [hst']
    cases s <;> decide

/-- Duplicate callbacks that check the attempt after one of them has moved it change nothing:
whatever the order of the sections after that, the callbacks end as that one alone, and every
other is refused. All start alike, so the one that moves first may stand anywhere among them. -/
theorem duplicate_callbacks_after_the_move_end_as_one {e : Engine} (hfree : e.held = [])
    (id : Ident) (s : Bool) (r : GatewayResponse) {k i : Nat} (hi : i < k) (turns : List Nat) :
    EndsAsOne i ((concurrent id s r k (i :: i :: i :: turns)).exec e) ((single id s r).exec e) := by
  have hlt : i < (List.replicate k Callback.check).length := by simpa using hi
  -- the callbacks as the sections of the one at `i` leave them: the others have not checked yet
  have hahead : ∀ {e' : Engine} {w : Callback}, Past id s e' w →
      Ahead id s i e' ((List.replicate k Callback.check).set i w) w := fun hw =>
    ⟨List.getElem?_set_self hlt, hw, fun j b hj hb => by
      rw [List.getElem?_set_ne (Ne.symm hj)] at hb
      exact .inl (List.eq_of_mem_replicate (List.mem_of_getElem? hb))⟩
  have hat : ∀ w, ((List.replicate k Callback.check).set i w)[i]? = some w :=
    fun _ => List.getElem?_set_self hlt
  rw [single_eq_finish, concurrent, exec_interleave_of (w := .check) (by simp [hi]), exec_finish]
  rcases pendingCheck_cases id s e with ⟨err, hchk⟩ | ⟨c, pid, p, g, hc, hpend, -, hp, -, hchk⟩
  · -- its check refuses: it has ended, and its two later turns pass
    have h₁ : (step id s r .check).exec e = .ok (.ok (.done (.error err)), e) := by
      simp only [step]
      rw [exec_ending_map, hchk]
    rw [h₁]
    exact interleave_ahead (i :: i :: turns) (hahead ⟨err, hchk⟩)
  · -- its check passes: it changes the payment and moves the attempt
    have h₁ : (step id s r .check).exec e = .ok (.ok (.ledger pid p g), e) := by
      simp only [step]
      rw [exec_ending_map, hchk]
    have hpid : p.id = pid := Store.id_of_payment? e.store hp
    obtain ⟨e₂, h₂, hheld₂, hrows₂⟩ :=
      step_ledger_ok (e := e) id s r pid p g (by simp [hfree]) (by rw [hpid, hp]; simp)
    obtain ⟨moved, e₃, h₃, hpast⟩ :=
      step_move_past (e := e₂) id s r pid (by simp [hheld₂, hfree]) (by rw [hrows₂]; exact hc) hpend
    rw [h₁]
    dsimp only
    rw [exec_interleave_of (hat _), h₂]
    dsimp only
    rw [List.set_set, exec_interleave_of (hat _), h₃]
    dsimp only
    rw [List.set_set, exec_finish, h₂]
    dsimp only
    rw [exec_finish, h₃]
    exact interleave_ahead turns (hahead hpast)

/-- Three callbacks that report the success of a pending attempt, on an engine where no lock is
held: the second checks and moves the attempt first, then the sections of the others run between
its last two. -/
theorem duplicate_callbacks_after_the_move_at_the_epoch :
    let p₀ : Payment :=
      { id := Ident.ofSerial 1, user := ⟨0⟩, gateway := "test", status := .form,
        amount := ⟨1999, 2, false⟩, paidAt := none, subscription := none, catalogItem := none,
        address := none, isRecurrent := false, parent := none, note := none,
        errorMessage := none, created := Instant.epoch, updated := Instant.epoch }
    let c₀ : Charge :=
      { Charge.ofDraft (Ident.ofSerial 3)
          { method := Ident.ofSerial 2, parent := p₀.id, chargeAt := Instant.epoch, retries := 2,
            customAmount := none, renewalItem := none, note := none } "tok" Instant.epoch with
        state := .pending, payment := some p₀.id }
    let e₀ : Engine :=
      { now := Instant.epoch, gateways := ⟨[{ id := "test", answering := .scripted [] }]⟩,
        store := { payments := [p₀], rows := [⟨c₀, 1⟩], seq := 1, serial := 3 } }
    let r₀ : GatewayResponse := { code := "CALLBACK_OK", message := "", successful := true }
    e₀.held = [] ∧ 1 < 3 ∧
      EndsAsOne 1 ((concurrent c₀.id true r₀ 3 [1, 1, 1, 0, 2, 1, 0, 2, 1]).exec e₀)
        ((single c₀.id true r₀).exec e₀) := by
  intro p₀ c₀ e₀ r₀
  exact ⟨rfl, by decide,
    duplicate_callbacks_after_the_move_end_as_one rfl c₀.id true r₀ (by decide) [0, 2, 1, 0, 2, 1]⟩

end Callback

end Run

end Rebill
