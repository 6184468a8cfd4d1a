import Rebill.Proofs.FailureAtomicity

/-!
# One audit line for every gateway charge

A run asks a gateway for money in one place only: `Run.process` charges the payment it chose for
the attempt it claimed, acts on the answer (the ledger settles or fails the payment, the registry
moves the attempt and may re-arm it), and only then writes the answer to the audit log. What
happens to the audit line of a charge therefore depends on the steps between the call and the
line (`process_audits_charge`):

* when acting on the answer goes through, the run appends exactly one line, and it carries the
  charged payment, the attempt, and the answer's success flag, code, message and data;
* when it fails, the run ends with that error and appends nothing, and it fails only on a lock of
  the attempt or of the payment that someone else holds.

So when no other party holds a lock, every charge asked of a gateway is recorded by exactly its
own audit line (`gateway_charges_are_audited`); a payment locked elsewhere while a run is in
progress loses the line of a charge that may already have moved money.

The proof follows the phases of `Run.process_cases`. Claiming and preparing write no audit line,
ask for no charge and take no lock for good (`Engine.KeepsTrail`), and the preparation of a call
leaves the claimed attempt active and hands over a payment read from the store. From there every
move an answer asks for is allowed, so with both locks free acting on it cannot fail
(`Run.sure_applyReply`). Over whole runs of operations the charges and the lines are paired by
`Run.Logged`: no operation keeps a lock, and the operations other than a charge run ask no charge
and append only lines that record none (`Engine.Audits.step`).
-/

namespace Rebill

open Svc

/-! ## What the steps around a call keep -/

theorem Store.audit_of_saveCharge {s s' : Store} {c v : Charge} {t : Instant}
    (h : s.saveCharge c t = .ok (v, s')) : s'.audit = s.audit := by
  obtain ⟨row, -, heq⟩ := (Store.saveCharge_eq_ok s).mp h
  cases heq
  rfl

namespace Engine

/-- The audit log, the charges asked of the gateways and the held locks are as they were. -/
structure KeepsTrail (e e' : Engine) : Prop where
  audit : e'.store.audit = e.store.audit
  charges : e'.journal.charges = e.journal.charges
  held : e'.held = e.held

def KeepsStates (e e' : Engine) : Prop :=
  ∀ x, (e'.store.charge? x).map (·.state) = (e.store.charge? x).map (·.state)

/-- No charge is asked of a gateway, and the audit log only grows at its end. -/
structure Appends (e e' : Engine) : Prop where
  charges : e'.journal.charges = e.journal.charges
  audit : e.store.audit <+: e'.store.audit

def KeepsHeld (e e' : Engine) : Prop := e'.held = e.held

namespace KeepsTrail

@[refl] theorem refl (e : Engine) : KeepsTrail e e := ⟨rfl, rfl, rfl⟩

theorem trans {e₁ e₂ e₃ : Engine} (h₁ : KeepsTrail e₁ e₂) (h₂ : KeepsTrail e₂ e₃) :
    KeepsTrail e₁ e₃ :=
  ⟨h₂.audit.trans h₁.audit, h₂.charges.trans h₁.charges, h₂.held.trans h₁.held⟩

instance : Std.Refl KeepsTrail := ⟨refl⟩
instance : IsTrans Engine KeepsTrail := ⟨fun _ _ _ => trans⟩

theorem of_routine {e e' : Engine} (h : Routine e e') : KeepsTrail e e' :=
  ⟨h.audit, h.charges, h.held⟩

theorem createPayment {e : Engine} {d : PaymentDraft} {t : Instant} {p : Payment} {s : Store}
    (h : e.store.createPayment d t = (p, s)) : KeepsTrail e { e with store := s } := by
  rw [Store.createPayment_eq] at h
  cases h
  exact ⟨rfl, rfl, rfl⟩

theorem keepsAt_updateStatus (id : Ident) (u : Ledger.StatusRequest) (e : Engine) :
    KeepsAt KeepsTrail (Ledger.updateStatus id u) e := by
  intro r e' h
  rcases Ledger.updateStatus_cases h with ⟨rfl, -, -⟩ | ⟨c, rfl, -⟩ |
    ⟨p, p', s', -, -, -, hs, -, rfl⟩
  · exact refl _
  · exact of_routine (Routine.tally _ _)
  · obtain ⟨q, -, heq⟩ := (Store.savePaymentStatus_eq_ok e.store).mp hs
    cases heq
    exact ⟨by simp, by simp, by simp⟩

theorem updates : Run.Updates KeepsTrail :=
  Run.Updates.of_update fun id _ e hch => (Attempts.update_routine hch id e).mono fun _ _ => of_routine

end KeepsTrail

namespace KeepsStates

@[refl] theorem refl (e : Engine) : KeepsStates e e := fun _ => rfl

theorem trans {e₁ e₂ e₃ : Engine} (h₁ : KeepsStates e₁ e₂) (h₂ : KeepsStates e₂ e₃) :
    KeepsStates e₁ e₃ :=
  fun x => (h₂ x).trans (h₁ x)

instance : Std.Refl KeepsStates := ⟨refl⟩
instance : IsTrans Engine KeepsStates := ⟨fun _ _ _ => trans⟩

theorem createPayment {e : Engine} {d : PaymentDraft} {t : Instant} {p : Payment} {s : Store}
    (h : e.store.createPayment d t = (p, s)) : KeepsStates e { e with store := s } := by
  rw [Store.createPayment_eq] at h
  cases h
  exact fun _ => rfl

theorem keepsAt_linkPayment (id p : Ident) (e : Engine) :
    KeepsAt KeepsStates (Attempts.linkPayment id p) e := by
  refine keepsAt_bind (fun r e' h => ?_) fun _ _ _ => keepsAt_pure _
  rcases Attempts.update_cases (P := fun c c' => c'.id = c.id ∧ c'.state = c.state)
    (fun c => reads_pure (by split <;> exact ⟨rfl, rfl⟩)) h with
    rfl | ⟨c, c', v, s', hc, ⟨hid, hstate⟩, hs, -, rfl⟩
  · exact refl _
  intro x
  rw [afterUpdate_store, Store.charge?_saveCharge e.store hs]
  split
  · next hx =>
    subst hx
    have hc' : e.store.charge? c'.id = some c := by rw [hid, Store.id_of_charge? e.store hc, hc]
    rw [hc', Option.map_some, Option.map_some, (Store.saveCharge_read e.store hs).2.2.1, hstate]
  · rfl

theorem charge? {e e' : Engine} (h : KeepsStates e e') {x : Ident} {c : Charge}
    (hc : e.store.charge? x = some c) : ∃ c', e'.store.charge? x = some c' ∧ c'.state = c.state := by
  have hx := h x
  rw [hc, Option.map_some] at hx
  exact Option.map_eq_some_iff.mp hx

end KeepsStates

namespace Appends

@[refl] theorem refl (e : Engine) : Appends e e := ⟨rfl, List.prefix_refl _⟩

theorem trans {e₁ e₂ e₃ : Engine} (h₁ : Appends e₁ e₂) (h₂ : Appends e₂ e₃) : Appends e₁ e₃ :=
  ⟨h₂.charges.trans h₁.charges, h₁.audit.trans h₂.audit⟩

instance : Std.Refl Appends := ⟨refl⟩
instance : IsTrans Engine Appends := ⟨fun _ _ _ => trans⟩

theorem of_trail {e e' : Engine} (h : KeepsTrail e e') : Appends e e' :=
  ⟨h.charges, h.audit ▸ List.prefix_refl _⟩

theorem appendAudit (e : Engine) (a : AuditEntry) :
    Appends e { e with store := e.store.appendAudit a } :=
  ⟨rfl, List.prefix_append _ _⟩

theorem tally (e : Engine) (k : Counter) : Appends e (e.tally k) :=
  of_trail (KeepsTrail.of_routine (Routine.tally e k))

theorem updates : Run.Updates Appends :=
  Run.Updates.of_update fun id _ e hch =>
    (Attempts.update_routine hch id e).mono fun _ _ h => of_trail (KeepsTrail.of_routine h)

theorem keepsAt_releaseClaim (id : Ident) (e : Engine) :
    KeepsAt Appends (Attempts.releaseClaim id) e := by
  intro r e' h
  rcases Attempts.releaseClaim_cases h with rfl | ⟨c, v, s', -, hs, -, rfl⟩
  · exact refl _
  · exact ⟨by simp, by simp [Store.audit_of_saveCharge hs]⟩

theorem keepsAt_prepare (c : Charge) (e : Engine) : KeepsAt Appends (Run.prepare c) e :=
  Run.keepsAt_prepare updates appendAudit (fun _ _ _ _ h => of_trail (KeepsTrail.createPayment h)) c e

end Appends

namespace KeepsHeld

@[refl] theorem refl (e : Engine) : KeepsHeld e e := rfl

theorem trans {e₁ e₂ e₃ : Engine} (h₁ : KeepsHeld e₁ e₂) (h₂ : KeepsHeld e₂ e₃) : KeepsHeld e₁ e₃ :=
  Eq.trans h₂ h₁

instance : Std.Refl KeepsHeld := ⟨refl⟩
instance : IsTrans Engine KeepsHeld := ⟨fun _ _ _ => trans⟩

end KeepsHeld

end Engine

/-! ## Steps that cannot fail -/

namespace Ledger

variable {id : Ident} {u : StatusRequest} {e e' : Engine}

theorem sure_updateStatus (hkey : paymentKey id ∉ e.held) (hp : e.store.payment? id ≠ none) :
    Sure (updateStatus id u) e :=
  let ⟨_, _, hx⟩ := updateStatus_ok (u := u) hkey hp
  sure_of_exec hx

theorem charge?_of_updateStatus {r : Except BillingError Bool}
    (h : (updateStatus id u).exec e = .ok (r, e')) (x : Ident) :
    e'.store.charge? x = e.store.charge? x := by
  rcases updateStatus_cases h with ⟨rfl, -, -⟩ | ⟨c, rfl, -⟩ | ⟨p, p', s', -, -, -, hs, -, rfl⟩
  · rfl
  · rfl
  · obtain ⟨q, -, heq⟩ := (Store.savePaymentStatus_eq_ok e.store).mp hs
    cases heq
    rw [Engine.afterStatusWrite_store]
    rfl

end Ledger

namespace Attempts

variable {change : Charge → Svc Charge} {id : Ident} {e : Engine} {c : Charge}

theorem sure_update (hch : Change change) (hkey : chargeKey id ∉ e.held)
    (hc : e.store.charge? id = some c)
    (hsure : Sure (change c) { e with held := chargeKey id :: e.held }) : Sure (update id change) e := by
  -- the body runs with the key held; naming that engine keeps its terms small
  generalize hE : { e with held := chargeKey id :: e.held } = e₀ at hsure
  have hc₀ : e₀.store.charge? id = some c := by rw [← hE]; exact hc
  have hbody : Sure (updateLocked id change) e₀ := by
    unfold updateLocked
    refine sure_bind_read (by rw [exec_get, hc₀]) (sure_bind hsure fun c' e₁ h₁ => ?_)
    obtain ⟨he₁, hev⟩ := hch c e₀ _ _ h₁
    subst e₁
    have hid : c'.id = id := ((hev c' rfl).id).trans (Store.id_of_charge? e₀.store hc₀)
    obtain ⟨v, s', hs⟩ := Store.saveCharge_of_charge? e₀.store hc₀ hid e₀.now
    refine sure_bind_read (exec_store e₀) (sure_bind_read (exec_now e₀) ?_)
    exact sure_bind (by rw [hs]; exact sure_of_exec (exec_stored e₀ _)) fun _ _ _ => sure_pure _
  unfold update
  refine sure_bind (fun err e' hx => ?_) fun oc e₁ _ => ?_
  · rw [exec_withLock, if_neg hkey, hE] at hx
    rcases hb : (updateLocked id change).exec e₀ with o | ⟨r, e₂⟩ <;> rw [hb] at hx
    · cases hx
    · cases hx
      exact hbody _ _ hb
  · obtain ⟨old, v⟩ := oc
    dsimp only
    split
    · exact sure_bind (sure_of_exec (exec_emit _ _ _)) fun _ _ _ => sure_pure _
    · exact sure_pure _

theorem sure_transition {t : ChargeState} {actor : Actor} {u : ChargeUpdate}
    (hkey : chargeKey id ∉ e.held) (hc : e.store.charge? id = some c)
    (ha : c.state.allows t actor = true) : Sure (transition id t actor u) e :=
  let ⟨_, _, _, hx⟩ := transition_ok (u := u) hkey hc ha
  sure_of_exec hx

theorem sure_rearmFailed (hkey : chargeKey id ∉ e.held) (hc : e.store.charge? id = some c)
    (hs : c.state = .chargeFailed) : Sure (rearmFailed id) e := by
  unfold rearmFailed
  refine sure_bind_read (exec_policy e) (sure_update (rearmFailed_change _) hkey hc ?_)
  have hstate : (c.state != .chargeFailed) = false := by simp [hs]
  simp only [hstate, Bool.false_eq_true, if_false]
  split
  · exact sure_pure _
  · refine sure_bind_read (exec_now _) (sure_bind (fun err e' hx => ?_) fun _ _ _ => sure_pure _)
    rw [exec_time] at hx
    split at hx <;> cases hx

theorem transition_stored {t : ChargeState} {actor : Actor} {u : ChargeUpdate} {e' : Engine}
    {r : Except BillingError Charge} (hkey : chargeKey id ∉ e.held)
    (hc : e.store.charge? id = some c) (ha : c.state.allows t actor = true)
    (h : (transition id t actor u).exec e = .ok (r, e')) :
    ∃ c', e'.store.charge? id = some c' ∧ c'.state = t ∧ e'.held = e.held := by
  obtain ⟨v, s', hs, hx⟩ := transition_ok (u := u) hkey hc ha
  rw [hx] at h
  cases h
  obtain ⟨hread, -, hst, -⟩ := Store.saveCharge_read e.store hs
  refine ⟨v, ?_, by rw [hst, Charge.moveTo_state], by simp⟩
  rw [Engine.afterUpdate_store, ← Store.id_of_charge? e.store hc, ← Charge.moveTo_id c t u]
  exact hread

theorem claim_active {e₁ : Engine} (h : (claim id).exec e = .ok (.ok (some c), e₁)) :
    c.id = id ∧ e₁.store.charge? c.id = some c ∧ c.state = .active := by
  rcases claim_cases h with ⟨-, hne⟩ | ⟨c₀, v, s', hc₀, hactive, -, hs, hr, rfl⟩
  · exact absurd rfl (hne c)
  cases hr
  obtain ⟨hread, hid, hstate, -⟩ := Store.saveCharge_read e.store hs
  refine ⟨hid.trans (Store.id_of_charge? e.store hc₀ : c₀.id = id), ?_, hstate.trans hactive⟩
  rw [hid]
  exact hread

end Attempts

namespace Run

open Attempts Engine

theorem applyReply_response {c : Charge} {p : Payment} {g : Gateway} {reply : ChargeReply}
    {e e' : Engine} {o : Outcome} {r : GatewayResponse}
    (h : (applyReply c p g reply).exec e = .ok (.ok (o, r), e')) : r = reply.response := by
  have hsnd : ∀ {α : Type} (m : Svc α) (x : Outcome × GatewayResponse) e₁,
      (m >>= fun _ => (pure x : Svc _)).exec e₁ = .ok (.ok (o, r), e') → r = x.2 := by
    intro α m x e₁ hx
    rcases exec_bind_eq_ok hx with ⟨err, -, hr⟩ | ⟨_, _, -, hp⟩
    · cases hr
    · cases hp
      rfl
  cases reply with
  | settled resp =>
    rcases exec_bind_eq_ok h with ⟨err, -, hr⟩ | ⟨_, e₁, -, hrest⟩
    · cases hr
    · exact hsnd _ (.charged, resp) e₁ hrest
  | pending resp => exact hsnd _ (.pending, resp) e h
  | failed f =>
    obtain ⟨kind, resp⟩ := f
    cases kind with
    | retryable =>
      rcases exec_bind_eq_ok h with ⟨err, -, hr⟩ | ⟨_, e₁, -, hrest⟩
      · cases hr
      rcases exec_bind_eq_ok hrest with ⟨err, -, hr⟩ | ⟨_, e₂, -, hrest'⟩
      · cases hr
      · exact hsnd _ (.failed, resp) e₂ hrest'
    | terminal =>
      rcases exec_bind_eq_ok h with ⟨err, -, hr⟩ | ⟨_, e₁, -, hrest⟩
      · cases hr
      · exact hsnd _ (.stopped, resp) e₁ hrest
    | hard =>
      rcases exec_bind_eq_ok h with ⟨err, -, hr⟩ | ⟨_, e₁, -, hrest⟩
      · cases hr
      · exact hsnd _ (.unhandled, resp) e₁ hrest

theorem sure_applyReply {c cur : Charge} {p : Payment} {g : Gateway} {e : Engine}
    (hc : chargeKey c.id ∉ e.held) (hp : Ledger.paymentKey p.id ∉ e.held)
    (hcur : e.store.charge? c.id = some cur) (hact : cur.state = .active)
    (hpay : e.store.payment? p.id ≠ none) (reply : ChargeReply) :
    Sure (applyReply c p g reply) e := by
  -- after the ledger, the attempt is still stored active and the locks are as they were
  have hledger : ∀ (u : Ledger.StatusRequest) r e₁,
      (Ledger.updateStatus p.id u).exec e = .ok (r, e₁) →
        chargeKey c.id ∉ e₁.held ∧ e₁.store.charge? c.id = some cur := fun u r e₁ h₁ =>
    ⟨(KeepsTrail.keepsAt_updateStatus _ _ e _ _ h₁).held ▸ hc,
      (Ledger.charge?_of_updateStatus h₁ c.id).trans hcur⟩
  have hallows : ∀ t, (t = .charged ∨ t = .pending ∨ t = .chargeFailed ∨ t = .systemStop ∨
      t = .active) → cur.state.allows t .system = true := by
    intro t ht
    rw [hact]
    rcases ht with rfl | rfl | rfl | rfl | rfl <;> decide
  cases reply with
  | settled r =>
    refine sure_bind (Ledger.sure_updateStatus hp hpay) fun _ e₁ h₁ => ?_
    obtain ⟨hc₁, hcur₁⟩ := hledger _ _ _ h₁
    exact sure_bind (sure_transition hc₁ hcur₁ (hallows _ (by simp))) fun _ _ _ => sure_pure _
  | pending r =>
    exact sure_bind (sure_transition hc hcur (hallows _ (by simp))) fun _ _ _ => sure_pure _
  | failed f =>
    obtain ⟨kind, r⟩ := f
    cases kind with
    | retryable =>
      refine sure_bind (Ledger.sure_updateStatus hp hpay) fun _ e₁ h₁ => ?_
      obtain ⟨hc₁, hcur₁⟩ := hledger _ _ _ h₁
      have ha := hallows .chargeFailed (by simp)
      refine sure_bind (sure_transition hc₁ hcur₁ ha) fun _ e₂ h₂ => ?_
      -- the failed attempt is stored failed, so re-arming it goes through
      obtain ⟨c₂, hc₂, hs₂, hheld₂⟩ := transition_stored hc₁ hcur₁ ha h₂
      exact sure_bind (sure_rearmFailed (hheld₂ ▸ hc₁) hc₂ hs₂) fun _ _ _ => sure_pure _
    | terminal =>
      refine sure_bind (Ledger.sure_updateStatus hp hpay) fun _ e₁ h₁ => ?_
      obtain ⟨hc₁, hcur₁⟩ := hledger _ _ _ h₁
      exact sure_bind (sure_transition hc₁ hcur₁ (hallows _ (by simp))) fun _ _ _ => sure_pure _
    | hard =>
      -- counting the unhandled answer touches neither the store nor the locks
      refine sure_bind (sure_of_exec (exec_count _ _)) fun _ e₁ h₁ => ?_
      rw [exec_count] at h₁
      cases h₁
      exact sure_bind (sure_transition hc hcur (hallows _ (by simp))) fun _ _ _ => sure_pure _

/-! ## Processing one attempt -/

theorem chargedPayment_ok {pid : Ident} {e e' : Engine} {p : Payment}
    (h : (chargedPayment pid).exec e = .ok (.ok p, e')) : e' = e ∧ e.store.payment? pid = some p := by
  unfold chargedPayment at h
  rw [exec_bind_ok (exec_store e)] at h
  split at h
  · next q hq =>
    rw [exec_pure] at h
    cases h
    exact ⟨rfl, hq⟩
  · rw [exec_throw] at h
    cases h

theorem prepare_call {c : Charge} {e e' : Engine} {p : Payment} {g : Gateway}
    (h : (prepare c).exec e = .ok (.ok (.call p g), e')) :
    KeepsTrail e e' ∧ KeepsStates e e' ∧ e'.store.payment? p.id = some p := by
  unfold prepare at h
  obtain ⟨x, hx, -⟩ := fastChargeConflict_exec c e
  rw [exec_bind_ok hx] at h
  split at h
  · -- a stopped attempt hands over no call
    unfold stopFast at h
    rcases exec_bind_eq_ok h with ⟨err, -, hr⟩ | ⟨_, e₁, -, hdone⟩
    · cases hr
    · rw [exec_pure] at hdone
      cases hdone
  rcases exec_bind_eq_ok h with ⟨err, -, hr⟩ | ⟨pid, e₁, hpay, hrest⟩
  · cases hr
  have htrail₁ := keepsAt_paymentFor_of KeepsTrail.updates.linkPayment
    (fun _ _ _ _ => KeepsTrail.createPayment) c e _ _ hpay
  have hstates₁ := keepsAt_paymentFor_of KeepsStates.keepsAt_linkPayment
    (fun _ _ _ _ => KeepsStates.createPayment) c e _ _ hpay
  unfold completeOrCall at hrest
  rcases exec_bind_eq_ok hrest with ⟨err, -, hr⟩ | ⟨q, e₂, hq, hnext⟩
  · cases hr
  obtain ⟨rfl, hq⟩ := chargedPayment_ok hq
  split at hnext
  · -- an attempt found paid is completed without a call
    rcases exec_bind_eq_ok hnext with ⟨err, -, hr⟩ | ⟨_, e₃, -, hdone⟩
    · cases hr
    · rw [exec_pure] at hdone
      cases hdone
  rcases exec_bind_eq_ok hnext with ⟨err, -, hr⟩ | ⟨g', e₃, hg, hcall⟩
  · cases hr
  have he₃ : e₃ = e₂ := by
    rw [exec_requireGateway] at hg
    split at hg <;> cases hg
    rfl
  subst he₃
  rw [exec_pure] at hcall
  cases hcall
  exact ⟨htrail₁, hstates₁, by rw [Store.id_of_payment? _ hq, hq]⟩

/-- What processing an attempt does to the charges asked of the gateways and to the audit log.
Either it asks no charge and only appends to the log, or it asks exactly one: of the gateway of
the payment it charges, with the attempt's token. Then it appends exactly the line of that
answer, for the payment and the attempt, unless it fails; a failure appends nothing, and comes
only from the lock of the attempt or of the payment, held by someone else. -/
theorem process_audits_charge {due : Charge} {e e' : Engine} {r : Except BillingError Outcome}
    (h : (process due).exec e = .ok (r, e')) :
    Appends e e' ∨
      ∃ (c : Charge) (p : Payment) (g : Gateway), c.id = due.id ∧
        e'.journal.charges = e.journal.charges ++ [⟨p.id, c.id, (g.charge p c.token).1⟩] ∧
        ((∃ t, e'.store.audit =
            e.store.audit ++ [logEntry p.id c.id (g.charge p c.token).1.response t]) ∨
          (e'.store.audit = e.store.audit ∧ (∃ err, r = .error err) ∧
            (chargeKey c.id ∈ e.held ∨ Ledger.paymentKey p.id ∈ e.held))) := by
  rcases process_cases h with ⟨rfl, -⟩ | ⟨rfl, -⟩ | ⟨c, e₁, hcl, hphase⟩
  · exact .inl (Appends.refl _)
  · exact .inl (Appends.tally _ _)
  have h₁ : KeepsTrail e e₁ := KeepsTrail.of_routine (claim_routine _ e _ _ hcl)
  rcases hphase with ⟨err, e₂, x, hp, hr, -⟩ | ⟨o, e₂, hp, rfl, -⟩ |
    ⟨p, g, e₂, hp, x, e₃, ha, hend⟩
  · exact .inl (((Appends.of_trail h₁).trans (Appends.keepsAt_prepare c e₁ _ _ hp)).trans
      (Appends.keepsAt_releaseClaim c.id e₂ _ _ hr))
  · exact .inl (((Appends.of_trail h₁).trans (Appends.keepsAt_prepare c e₁ _ _ hp)).trans
      (Appends.tally e₂ _))
  -- the call: up to the line, only the charge itself is added to the trail
  obtain ⟨hid, hc₁, hact⟩ := claim_active hcl
  obtain ⟨h₂, hs₂, hpay⟩ := prepare_call hp
  have h₃ : KeepsTrail (e₂.afterCharge g p c) e₃ :=
    keepsAt_applyReply KeepsTrail.updates KeepsTrail.keepsAt_updateStatus
      (fun e k => KeepsTrail.of_routine (Routine.tally e k)) c p g _ _ _ _ ha
  have htrail := h₁.trans h₂
  have hcharges : e₃.journal.charges = e.journal.charges ++ [⟨p.id, c.id, (g.charge p c.token).1⟩] := by
    rw [h₃.charges, afterCharge_charges, htrail.charges]
  have haudit : e₃.store.audit = e.store.audit := by
    rw [h₃.audit, afterCharge_store, htrail.audit]
  refine .inr ⟨c, p, g, hid, ?_⟩
  rcases hend with ⟨err, rfl, rfl, rfl⟩ | ⟨o, resp, rfl, rfl, rfl⟩
  · -- acting on the answer failed, which it cannot do with both locks free
    refine ⟨hcharges, .inr ⟨haudit, ⟨err, rfl⟩, ?_⟩⟩
    by_contra hfree
    obtain ⟨hk, hpk⟩ := not_or.mp hfree
    obtain ⟨cur, hcur, hst⟩ := hs₂.charge? hc₁
    have hsure := sure_applyReply (g := g) (c := c) (e := e₂.afterCharge g p c)
      (by rw [afterCharge_held, htrail.held]; exact hk)
      (by rw [afterCharge_held, htrail.held]; exact hpk)
      (by rw [afterCharge_store]; exact hcur) (hst.trans hact)
      (by rw [afterCharge_store, hpay]; exact Option.some_ne_none _) (g.charge p c.token).1
    exact hsure err _ ha
  · refine ⟨by simpa using hcharges, .inl ⟨e₃.now, ?_⟩⟩
    simp [Store.appendAudit, haudit, applyReply_response ha]

end Run

/-! ## Every operation -/

namespace Run

/-- `Logged calls lines`: the audit lines `lines` record the gateway charges `calls`, each charge
by a line of its own. Both lists grow at their end: by lines that record no charge (an attempt
found paid, a callback), or by one charge together with its line, which carries the charge's
payment, its attempt and the raw answer. -/
inductive Logged : List GatewayCharge → List AuditEntry → Prop where
  | nil : Logged [] []
  | extra {calls lines} (more : List AuditEntry) : Logged calls lines → Logged calls (lines ++ more)
  | charge {calls lines} (k : GatewayCharge) (t : Instant) :
      Logged calls lines →
        Logged (calls ++ [k]) (lines ++ [logEntry k.payment k.attempt k.reply.response t])

theorem Logged.append {calls₁ lines₁ calls₂ lines₂} (h₁ : Logged calls₁ lines₁)
    (h₂ : Logged calls₂ lines₂) : Logged (calls₁ ++ calls₂) (lines₁ ++ lines₂) := by
  induction h₂ with
  | nil => simpa using h₁
  | extra more _ ih =>
    rw [← List.append_assoc]
    exact .extra more ih
  | charge k t _ ih =>
    rw [← List.append_assoc, ← List.append_assoc]
    exact .charge k t ih

end Run

namespace Engine

open Attempts

/-- The charges asked of the gateways from `e` to `e'` are logged by the lines appended to the
audit log from `e` to `e'`. -/
def Logs (e e' : Engine) : Prop :=
  ∃ calls lines, Run.Logged calls lines ∧ e'.journal.charges = e.journal.charges ++ calls ∧
    e'.store.audit = e.store.audit ++ lines

namespace Logs

@[refl] theorem refl (e : Engine) : Logs e e := ⟨[], [], .nil, by simp, by simp⟩

theorem trans {e₁ e₂ e₃ : Engine} (h₁ : Logs e₁ e₂) (h₂ : Logs e₂ e₃) : Logs e₁ e₃ := by
  obtain ⟨calls₁, lines₁, hl₁, hc₁, ha₁⟩ := h₁
  obtain ⟨calls₂, lines₂, hl₂, hc₂, ha₂⟩ := h₂
  exact ⟨calls₁ ++ calls₂, lines₁ ++ lines₂, hl₁.append hl₂,
    by rw [hc₂, hc₁, List.append_assoc], by rw [ha₂, ha₁, List.append_assoc]⟩

theorem of_appends {e e' : Engine} (h : Appends e e') : Logs e e' := by
  obtain ⟨more, hmore⟩ := h.audit
  exact ⟨[], more, by simpa using Run.Logged.nil.extra more, by simp [h.charges], hmore.symm⟩

theorem process {due : Charge} {e e' : Engine} {r : Except BillingError Run.Outcome}
    (h : (Run.process due).exec e = .ok (r, e')) (hfree : e.held = []) : Logs e e' := by
  rcases Run.process_audits_charge h with happ | ⟨c, p, g, -, hcharges, ⟨t, haudit⟩ | ⟨-, -, hlock⟩⟩
  · exact of_appends happ
  · exact ⟨_, _, Run.Logged.nil.charge ⟨p.id, c.id, _⟩ t, by simpa using hcharges,
      by simpa using haudit⟩
  · rw [hfree] at hlock
    simp at hlock

end Logs

namespace KeepsHeld

theorem keepsAt_releaseClaim (id : Ident) (e : Engine) : KeepsAt KeepsHeld (releaseClaim id) e := by
  intro r e' h
  rcases releaseClaim_cases h with rfl | ⟨c, v, s', -, -, -, rfl⟩
  · exact refl _
  · exact afterUpdate_held _ _ _ _ _

theorem keepsAt_process (due : Charge) (e : Engine) : KeepsAt KeepsHeld (Run.process due) e :=
  have hup : Run.Updates KeepsHeld :=
    Run.Updates.of_update fun id _ e hch => (update_routine hch id e).mono fun _ _ h => h.held
  have hlog : ∀ e (a : AuditEntry), KeepsHeld e { e with store := e.store.appendAudit a } :=
    fun _ _ => rfl
  have htally : ∀ e k, KeepsHeld e (e.tally k) := fun _ _ => rfl
  Run.keepsAt_process (fun e => (claim_routine _ e).mono fun _ _ h => h.held)
    (Run.keepsAt_prepare hup hlog fun _ _ _ _ h => (KeepsTrail.createPayment h).held)
    (fun c e => keepsAt_releaseClaim c.id e) (fun _ _ _ _ => rfl)
    (Run.keepsAt_applyReply hup
      (fun id u e => (KeepsTrail.keepsAt_updateStatus id u e).mono fun _ _ h => h.held) htally)
    hlog htally e

end KeepsHeld

/-- The locks held are as they were, and from an engine where no other party holds a lock, the
charges asked of the gateways since are logged. -/
structure Audits (e e' : Engine) : Prop where
  held : e'.held = e.held
  logs : e.held = [] → Logs e e'

namespace Audits

@[refl] theorem refl (e : Engine) : Audits e e := ⟨rfl, fun _ => Logs.refl e⟩

theorem trans {e₁ e₂ e₃ : Engine} (h₁ : Audits e₁ e₂) (h₂ : Audits e₂ e₃) : Audits e₁ e₃ :=
  ⟨h₂.held.trans h₁.held, fun hfree => (h₁.logs hfree).trans (h₂.logs (h₁.held.trans hfree))⟩

instance : Std.Refl Audits := ⟨refl⟩
instance : IsTrans Engine Audits := ⟨fun _ _ _ => trans⟩

theorem of_trail {e e' : Engine} (h : KeepsTrail e e') : Audits e e' :=
  ⟨h.held, fun _ => Logs.of_appends (Appends.of_trail h)⟩

theorem of_routine {e e' : Engine} (h : Routine e e') : Audits e e' :=
  of_trail (KeepsTrail.of_routine h)

theorem appendAudit (e : Engine) (a : AuditEntry) :
    Audits e { e with store := e.store.appendAudit a } :=
  ⟨rfl, fun _ => Logs.of_appends (Appends.appendAudit e a)⟩

theorem tally (e : Engine) (k : Counter) : Audits e (e.tally k) := of_routine (Routine.tally e k)

theorem updates : Run.Updates Audits :=
  Run.Updates.of_update fun id _ e hch => (update_routine hch id e).mono fun _ _ => of_routine

theorem keepsAt_updateStatus (id : Ident) (u : Ledger.StatusRequest) (e : Engine) :
    KeepsAt Audits (Ledger.updateStatus id u) e :=
  (KeepsTrail.keepsAt_updateStatus id u e).mono fun _ _ => of_trail

theorem keepsAt_releaseClaim (id : Ident) (e : Engine) : KeepsAt Audits (releaseClaim id) e :=
  fun r e' h => ⟨KeepsHeld.keepsAt_releaseClaim id e r e' h,
    fun _ => Logs.of_appends (Appends.keepsAt_releaseClaim id e r e' h)⟩

theorem keepsAt_process (due : Charge) (e : Engine) : KeepsAt Audits (Run.process due) e :=
  fun r e' h => ⟨KeepsHeld.keepsAt_process due e r e' h, Logs.process h⟩

theorem keepsAt_run (ids : Option (List Ident)) (e : Engine) : KeepsAt Audits (Run.run ids) e :=
  Run.keepsAt_run keepsAt_process tally ids e

theorem step {e e' : Engine} {op : Op} (h : op.Step e e') : Audits e e' := by
  obtain ⟨r, hx⟩ := h
  cases op with
  | issueIdent | setClock _ | setGateway _ | seedPayment _ | putCharge _ =>
    cases hx
    exact of_trail ⟨rfl, rfl, rfl⟩
  | createPayment d =>
    cases hx
    exact of_trail (KeepsTrail.createPayment (p := (e.store.createPayment d e.now).1) rfl)
  | registry op => exact of_routine (RegistryOp.keepsAt_act op e r e' hx)
  | releaseClaim id => exact keepsAt_drop (keepsAt_releaseClaim id e) r e' hx
  | updateStatus id u => exact keepsAt_drop (keepsAt_updateStatus id u e) r e' hx
  | run ids => exact keepsAt_drop (keepsAt_run ids e) r e' hx
  | resolvePending id succeeded resp =>
    exact keepsAt_drop (Run.keepsAt_resolvePending updates appendAudit keepsAt_updateStatus tally
      id succeeded resp e) r e' hx
  | refreshExpiry g =>
    exact keepsAt_drop ((Expiry.refresh_routine g e).mono fun _ _ => of_routine) r e' hx

end Audits

end Engine

open Engine in
/-- Over every run of operations from an engine where no other party holds a lock, every charge
asked of a gateway is recorded by an audit line of its own: the charges asked and the lines
appended are `Run.Logged`, each charge with the line that carries the charged payment, the
attempt, and the success flag, code, message and data of the answer. -/
theorem gateway_charges_are_audited {A : Engine → Op → Prop} {e e' : Engine} {ops : List Op}
    (hfree : e.held = []) (hrun : Reach A e ops e') :
    ∃ calls lines, Run.Logged calls lines ∧ e'.journal.charges = e.journal.charges ++ calls ∧
      e'.store.audit = e.store.audit ++ lines :=
  (hrun.keeps fun _ _ _ _ _ hs => Audits.step hs).logs hfree

/-- A run over an attempt due now, on a scripted gateway, from an engine where no lock is held:
it asks one charge, which is logged. -/
theorem gateway_charges_are_audited_over_a_run :
    let p₀ : Payment :=
      { id := Ident.ofSerial 1, user := ⟨0⟩, gateway := "test", status := .paid,
        amount := ⟨1999, 2, false⟩, paidAt := none, subscription := none, catalogItem := none,
        address := none, isRecurrent := false, parent := none, note := none,
        errorMessage := none, created := Instant.epoch, updated := Instant.epoch }
    let m₀ : Method :=
      { id := Ident.ofSerial 2, user := ⟨0⟩, gateway := "test", token := "tok", expiresOn := none,
        created := Instant.epoch }
    let c₀ : Charge := Charge.ofDraft (Ident.ofSerial 3)
      { method := m₀.id, parent := p₀.id, chargeAt := Instant.epoch, retries := 2,
        customAmount := none, renewalItem := none, note := none } "tok" Instant.epoch
    let e₀ : Engine :=
      { now := Instant.epoch, gateways := ⟨[{ id := "test", answering := .scripted [] }]⟩,
        store := { payments := [p₀], methods := [m₀], rows := [⟨c₀, 1⟩], seq := 1, serial := 3 } }
    ∃ e₁, e₀.held = [] ∧ Reach (fun _ _ => True) e₀ [.run none] e₁ ∧
      e₁.journal.charges.length = 1 ∧
      ∃ calls lines, Run.Logged calls lines ∧ e₁.journal.charges = e₀.journal.charges ++ calls ∧
        e₁.store.audit = e₀.store.audit ++ lines := by
  intro p₀ m₀ c₀ e₀
  -- the kernel runs the operation once; the rest is read off its result
  have hcount :
      ((Op.run none).act.exec e₀).toOption.map (·.2.journal.charges.length) = some 1 := by
    decide +kernel
  cases hx : (Op.run none).act.exec e₀ with
  | error o =>
    rw [hx] at hcount
    cases hcount
  | ok x =>
    obtain ⟨r, e₁⟩ := x
    rw [hx] at hcount
    have hrun : Reach (fun _ _ => True) e₀ [.run none] e₁ := .cons trivial ⟨r, hx⟩ (.nil _)
    exact ⟨e₁, rfl, hrun, Option.some.inj hcount, gateway_charges_are_audited rfl hrun⟩

end Rebill
