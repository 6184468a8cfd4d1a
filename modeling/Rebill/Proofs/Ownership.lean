import Rebill.Proofs.RetryBudget
import Rebill.Proofs.ChargeSpacing
import Rebill.Proofs.Reactivation

/-!
# A claim owns its attempt

A run takes its queue from `Attempts.chargeable` and owns each attempt of it by `Attempts.claim`,
which marks the attempt `IN_FLIGHT`. This module says what the queue holds and what the mark buys.

* The queue is read at the end of the lookahead. When that instant is on the time line, the queue
  of a well-formed store is exactly its stored attempts that are active, free, with retries not
  below zero and due by then, among the identifiers asked for, each once
  (`Store.mem_findChargeable`, `Store.Wf.nodup_findChargeable`).
* A queued attempt whose lock is free is claimed at the same instant and marked in flight
  (`Attempts.claim_of_queued`); a held lock makes the claim time out instead.
* The mark lasts. Every operation but giving back the claim on the attempt and writing the attempt
  over its row lets the attempt evolve (`Engine.EvolvesAt`), so its budget (`Charge.budget`)
  never grows. A marked attempt with retries not below zero has a budget of its retries and a free
  one has one more, so the attempt is free again only once a retry is spent
  (`Charge.Evolves.spent_of_free`); until then it is in no queue and no claim hands it over.
* Giving a claim back clears the status of an active attempt in flight, and no other status
  (`Attempts.releaseClaim_read`).

Main statement: `Attempts.claims_own_queued_attempts`.
-/

namespace Rebill

open Svc

namespace Charge

theorem Evolves.of_free {c c' : Charge} (hs : c.state = .active) (hst : c.status = none)
    (hid : c'.id = c.id) (hm : c'.method = c.method) (hr : c'.retries ≤ c.retries)
    (hnn : 0 ≤ c.retries → 0 ≤ c'.retries) : c.Evolves c' where
  id := hid
  method := hm
  closed := fun hc => by simp [hs, ChargeState.isClosed] at hc
  retries := hr
  nonneg := hnn
  budget := by
    by_cases h0 : 0 ≤ c.retries
    · have h₁ := c'.budget_le_succ
      rw [budget_of_free hs hst h0]
      omega
    · -- no retry to spend: neither attempt may cost a charge
      have h₁ := c'.budget_le_retries
      omega

theorem Evolves.spent_of_free {c c' : Charge} (h : c.Evolves c') (hst : c.status.isSome)
    (hnn : 0 ≤ c.retries) (hs' : c'.state = .active) (hst' : c'.status = none) :
    c'.retries < c.retries := by
  have hbefore := budget_of_status hst
  have hafter := budget_of_free hs' hst' (h.nonneg hnn)
  have hle := h.budget
  have hnn' := h.nonneg hnn
  omega

end Charge

namespace Store

variable (s : Store)

theorem mem_findChargeable (hwf : s.Wf) {sh : Shuffle} {t : Instant} {ids : Option (List Ident)}
    {c : Charge} :
    c ∈ s.findChargeable sh t ids ↔ s.charge? c.id = some c ∧ c.state = .active ∧ c.status = none ∧
      0 ≤ c.retries ∧ c.chargeAt ≤ t ∧ ∀ l, ids = some l → c.id ∈ l := by
  rw [(s.findChargeable_perm sh t ids).mem_iff]
  have hdue : c ∈ s.charges.filter (isDue t) ↔ s.charge? c.id = some c ∧ c.state = .active ∧
      c.status = none ∧ 0 ≤ c.retries ∧ c.chargeAt ≤ t := by
    simp only [List.mem_filter, isDue, Bool.and_eq_true, beq_iff_eq, Option.isNone_iff_eq_none,
      decide_eq_true_eq]
    constructor
    · rintro ⟨hmem, ⟨⟨hs, hst⟩, hr⟩, ht⟩
      exact ⟨hwf.charge?_of_mem hmem, hs, hst, hr, ht⟩
    · rintro ⟨hc, hs, hst, hr, ht⟩
      exact ⟨mem_charges_of_charge? s hc, ⟨⟨hs, hst⟩, hr⟩, ht⟩
  -- with no list given, the second filter lets every attempt through
  cases ids with
  | none =>
    simp only [findChargeable, Shuffle.keep, id_eq]
    rw [List.mem_filter, hdue]
    simp
  | some l =>
    simp only [findChargeable, Shuffle.keep, id_eq]
    rw [List.mem_filter, hdue]
    simp [and_assoc]

theorem saveCharge_method {c c₀ v : Charge} {t : Instant} {s' : Store}
    (hc : s.charge? c.id = some c₀) (h : s.saveCharge c t = .ok (v, s')) : v.method = c₀.method := by
  obtain ⟨row, hrow, heq⟩ := (saveCharge_eq_ok s).mp h
  obtain ⟨row₀, hrow₀, rfl⟩ := (charge?_eq_some s).mp hc
  cases heq
  have hsame : row₀ = row := Option.some.inj (hrow₀.symm.trans hrow)
  subst hsame
  simp [Charge.savedOver]

theorem charge?_putCharge_of_ne {c : Charge} {x : Ident} (hx : c.id ≠ x) :
    (s.putCharge c).charge? x = s.charge? x := by
  have hw : (s.putCharge c).withToken = s.withToken := withToken_congr s rfl
  unfold charge?
  rw [row?_putCharge, if_neg hx, hw]

end Store

namespace Attempts

theorem claim_of_queued {e : Engine} (hwf : e.store.Wf) {due : Instant}
    (hdue : shiftBy e.now e.policy.lookahead = .ok due) {ids : Option (List Ident)} {c : Charge}
    (hc : c ∈ e.store.findChargeable e.shuffle due ids) (hkey : chargeKey c.id ∉ e.held) :
    ∃ v e₁, (claim c.id).exec e = .ok (.ok (some v), e₁) ∧ e₁.store.charge? c.id = some v ∧
      v.id = c.id ∧ v.status = some inFlight ∧ v.retries = c.retries ∧ e₁.store.Wf := by
  obtain ⟨hcs, hs, hst, -, ht, -⟩ := (Store.mem_findChargeable e.store hwf).mp hc
  obtain ⟨v, s', hsave, hcl⟩ := claim_ok hkey hcs hdue hs hst ht
  obtain ⟨hread, hid, -, hstatus, -, hretries, -⟩ := Store.saveCharge_read e.store hsave
  exact ⟨v, _, hcl, hread, hid, hstatus, hretries, hwf.saveCharge hsave⟩

theorem releaseClaim_other {id x : Ident} (hx : id ≠ x) {e e' : Engine}
    {r : Except BillingError Charge} (h : (releaseClaim id).exec e = .ok (r, e')) :
    e'.store.charge? x = e.store.charge? x := by
  rcases releaseClaim_cases h with rfl | ⟨c, v, s', hc, hs, -, rfl⟩
  · rfl
  · have hid := (giveBack_fields c (c.state == .active && c.status == some inFlight)).1.trans
      (Store.id_of_charge? e.store hc)
    rw [Engine.afterUpdate_store, Store.charge?_saveCharge e.store hs, hid, if_neg hx]

theorem releaseClaim_read {id : Ident} {e e' : Engine} {r : Except BillingError Charge}
    (h : (releaseClaim id).exec e = .ok (r, e')) {c : Charge} (hc : e.store.charge? id = some c) :
    ∃ c', e'.store.charge? id = some c' ∧ c'.id = c.id ∧ c'.method = c.method ∧
      c'.state = c.state ∧ c'.retries = c.retries ∧
      (c.state ≠ .active ∨ c.status ≠ some inFlight → c'.status = c.status) := by
  rcases releaseClaim_cases h with rfl | ⟨c₀, v, s', hc₀, hs, -, rfl⟩
  · exact ⟨c, hc, rfl, rfl, rfl, rfl, fun _ => rfl⟩
  have hsame : c₀ = c := Option.some.inj (hc₀.symm.trans hc)
  subst hsame
  obtain ⟨hfid, hfstate, hfretries⟩ :=
    giveBack_fields c₀ (c₀.state == .active && c₀.status == some inFlight)
  obtain ⟨hread, hid, hstate, hstatus, -, hretries, -⟩ := Store.saveCharge_read e.store hs
  have hid' := hfid.trans (Store.id_of_charge? e.store hc₀)
  have hm : v.method = c₀.method := Store.saveCharge_method e.store (hid' ▸ hc₀) hs
  refine ⟨v, by rw [Engine.afterUpdate_store, ← hid']; exact hread, hid.trans hfid, hm,
    hstate.trans hfstate, hretries.trans hfretries, fun hnot => ?_⟩
  -- not an active attempt in flight: the attempt is written back as read
  have hcond : (c₀.state == .active && c₀.status == some inFlight) = false := by
    rcases hnot with hne | hne <;> simp [hne]
  rw [hstatus, hcond]
  rfl

end Attempts

namespace Engine

/-- The attempt `x` evolves from `e` to `e'`: stored, it stays stored and changes only as the
registry lets attempts change (`Charge.Evolves`). -/
def EvolvesAt (x : Ident) (e e' : Engine) : Prop :=
  ∀ c, e.store.charge? x = some c → ∃ c', e'.store.charge? x = some c' ∧ c.Evolves c'

namespace EvolvesAt

variable {x : Ident} {e e' : Engine}

@[refl] theorem refl (e : Engine) : EvolvesAt x e e := fun c hc => ⟨c, hc, .refl c⟩

theorem trans {e₁ e₂ e₃ : Engine} (h₁ : EvolvesAt x e₁ e₂) (h₂ : EvolvesAt x e₂ e₃) :
    EvolvesAt x e₁ e₃ := by
  intro c hc
  obtain ⟨c₂, hc₂, hev₂⟩ := h₁ c hc
  obtain ⟨c₃, hc₃, hev₃⟩ := h₂ c₂ hc₂
  exact ⟨c₃, hc₃, hev₂.trans hev₃⟩

instance : Std.Refl (EvolvesAt x) := ⟨refl⟩
instance : IsTrans Engine (EvolvesAt x) := ⟨fun _ _ _ => trans⟩

theorem of_routine (h : Routine e e') : EvolvesAt x e e' := fun _ hc => h.charge? hc

theorem of_charge? (h : e'.store.charge? x = e.store.charge? x) : EvolvesAt x e e' :=
  fun c hc => ⟨c, h.trans hc, .refl c⟩

theorem tally (e : Engine) (k : Counter) : EvolvesAt x e (e.tally k) := of_routine (Routine.tally e k)

theorem appendAudit (e : Engine) (a : AuditEntry) :
    EvolvesAt x e { e with store := e.store.appendAudit a } :=
  of_charge? rfl

theorem createPayment {d : PaymentDraft} {p : Payment} {s : Store}
    (h : e.store.createPayment d e.now = (p, s)) : EvolvesAt x e { e with store := s } := by
  have hs : s = (e.store.createPayment d e.now).2 := by rw [h]
  subst hs
  refine of_charge? ?_
  rw [Store.createPayment_eq]
  rfl

theorem keepsAt_update (id : Ident) (change : Charge → Svc Charge) (e : Engine)
    (hch : Attempts.Change change) : KeepsAt (EvolvesAt x) (Attempts.update id change) e :=
  (Attempts.update_routine hch id e).mono fun _ _ => of_routine

theorem keepsAt_updateStatus (id : Ident) (u : Ledger.StatusRequest) (e : Engine) :
    KeepsAt (EvolvesAt x) (Ledger.updateStatus id u) e := by
  intro r e' h
  rcases Ledger.updateStatus_cases h with ⟨rfl, -, -⟩ | ⟨k, rfl, -⟩ |
    ⟨p, p', s', -, -, -, hs, -, rfl⟩
  · exact refl _
  · exact tally _ k
  · obtain ⟨q, -, heq⟩ := (Store.savePaymentStatus_eq_ok e.store).mp hs
    cases heq
    exact of_charge? (by simp; rfl)

theorem keepsAt_releaseClaim {id : Ident} (hx : id ≠ x) (e : Engine) :
    KeepsAt (EvolvesAt x) (Attempts.releaseClaim id) e :=
  fun _ _ h => of_charge? (Attempts.releaseClaim_other hx h)

theorem updates : Run.Updates (EvolvesAt x) := .of_update keepsAt_update

theorem giveBack {id : Ident} {c : Charge} {e₁ e₂ : Engine} {r : Except BillingError Charge}
    (hcl : (Attempts.claim id).exec e = .ok (.ok (some c), e₁)) (h₂ : EvolvesAt c.id e e₂)
    (hr : (Attempts.releaseClaim c.id).exec e₂ = .ok (r, e')) : EvolvesAt c.id e e' := by
  rcases Attempts.claim_cases hcl with ⟨-, hne⟩ | ⟨c₀, v, s', hc₀, hactive, hnone, hs, hv, -⟩
  · exact absurd rfl (hne c)
  cases hv
  have hsaved : c.id = c₀.id := (Store.saveCharge_read e.store hs).2.1
  have hid : c.id = id := hsaved.trans (Store.id_of_charge? e.store hc₀)
  intro c₁ hc₁
  have hsame : c₁ = c₀ := Option.some.inj (hc₁.symm.trans (hid ▸ hc₀))
  subst hsame
  obtain ⟨c₂, hc₂, hev⟩ := h₂ c₁ hc₁
  obtain ⟨c', hc', hid', hm', -, hr', -⟩ := Attempts.releaseClaim_read hr hc₂
  exact ⟨c', hc', Charge.Evolves.of_free hactive hnone (hid'.trans hev.id) (hm'.trans hev.method)
    (hr' ▸ hev.retries) (fun h0 => hr' ▸ hev.nonneg h0)⟩

theorem keepsAt_process (x : Ident) (due : Charge) (e : Engine) :
    KeepsAt (EvolvesAt x) (Run.process due) e := by
  have hprep := Run.keepsAt_prepare (R := EvolvesAt x) updates appendAudit (fun _ _ _ _ => createPayment)
  intro r e' h
  rcases Run.process_cases h with ⟨rfl, -⟩ | ⟨rfl, -⟩ | ⟨c, e₁, hcl, hphase⟩
  · exact refl _
  · exact tally _ _
  have h₁ : EvolvesAt x e e₁ := of_routine (Attempts.claim_routine _ e _ _ hcl)
  rcases hphase with ⟨err, e₂, y, hp, hr, -⟩ | ⟨o, e₂, hp, rfl, -⟩ |
    ⟨p, g, e₂, hp, y, e₃, ha, hend⟩
  · have h₂ : EvolvesAt x e e₂ := h₁.trans (hprep c e₁ _ _ hp)
    by_cases hx : c.id = x
    · subst hx
      exact giveBack hcl h₂ hr
    · exact h₂.trans (keepsAt_releaseClaim hx e₂ _ _ hr)
  · exact (h₁.trans (hprep c e₁ _ _ hp)).trans (tally e₂ _)
  · have hcall : EvolvesAt x e (e₂.afterCharge g p c) :=
      (h₁.trans (hprep c e₁ _ _ hp)).trans (of_charge? rfl)
    have h₃ : EvolvesAt x e e₃ := hcall.trans
      (Run.keepsAt_applyReply updates keepsAt_updateStatus tally c p g _ _ _ _ ha)
    rcases hend with ⟨err, -, rfl, -⟩ | ⟨o, resp, -, -, rfl⟩
    · exact h₃
    · exact h₃.trans ((appendAudit e₃ _).trans (tally _ _))

theorem keepsAt_run (x : Ident) (ids : Option (List Ident)) (e : Engine) :
    KeepsAt (EvolvesAt x) (Run.run ids) e :=
  Run.keepsAt_run (fun c e => keepsAt_process x c e) tally ids e

theorem keepsAt_resolvePending (id : Ident) (succeeded : Bool) (r : GatewayResponse) (e : Engine) :
    KeepsAt (EvolvesAt x) (Run.resolvePending id succeeded r) e :=
  Run.keepsAt_resolvePending updates appendAudit keepsAt_updateStatus tally id succeeded r e

end EvolvesAt

/-- The operations that leave the attempt `x` to whoever claimed it: all but giving back the
claim on `x` and writing `x` over its row. An attempt or payment written as given takes an
identifier the store has issued, so that the store stays well formed. -/
def Spares (x : Ident) (e : Engine) : Op → Prop
  | .releaseClaim y => y ≠ x
  | .putCharge c => c.id ≠ x ∧ e.store.Issued c.id
  | .seedPayment p => e.store.Issued p.id
  | _ => True

namespace Spares

variable {x : Ident} {e e' : Engine} {op : Op}

theorem evolvesAt (hA : e.Spares x op) (h : op.Step e e') : EvolvesAt x e e' := by
  obtain ⟨r, hx⟩ := h
  cases op with
  | issueIdent | setClock _ | setGateway _ | seedPayment _ =>
    cases hx
    exact .of_charge? rfl
  | createPayment d =>
    cases hx
    exact .createPayment (p := (e.store.createPayment d e.now).1) rfl
  | putCharge c =>
    cases hx
    exact .of_charge? (Store.charge?_putCharge_of_ne e.store hA.1)
  | registry op => exact .of_routine (RegistryOp.keepsAt_act op e r e' hx)
  | releaseClaim id => exact keepsAt_drop (EvolvesAt.keepsAt_releaseClaim hA e) r e' hx
  | updateStatus id u => exact keepsAt_drop (EvolvesAt.keepsAt_updateStatus id u e) r e' hx
  | run ids => exact keepsAt_drop (EvolvesAt.keepsAt_run x ids e) r e' hx
  | resolvePending id succeeded resp =>
    exact keepsAt_drop (EvolvesAt.keepsAt_resolvePending id succeeded resp e) r e' hx
  | refreshExpiry g =>
    exact keepsAt_drop ((Expiry.refresh_routine g e).mono fun _ _ => EvolvesAt.of_routine) r e' hx

theorem wf (hA : e.Spares x op) (h : op.Step e e') (hwf : e.store.Wf) : e'.store.Wf := by
  cases op
  case putCharge c =>
    obtain ⟨r, hx⟩ := h
    cases hx
    exact hwf.putCharge hA.2
  case releaseClaim id =>
    obtain ⟨r, hx⟩ := h
    rcases exec_bind_eq_ok hx with ⟨err, hr, rfl⟩ | ⟨a, e₁, hr, hrest⟩
    · exact (restores_releaseClaim hr).wf hwf
    · cases hrest
      exact (restores_releaseClaim hr).wf hwf
  all_goals exact (Spends.step (by exact hA) h hwf).wf hwf

end Spares

end Engine

namespace Reach

variable {x : Ident} {e e' : Engine} {ops : List Op}

theorem evolvesAt (h : Reach (Engine.Spares x) e ops e') : Engine.EvolvesAt x e e' :=
  h.keeps fun _ _ _ _ hA hs => Engine.Spares.evolvesAt hA hs

theorem wf (h : Reach (Engine.Spares x) e ops e') (hwf : e.store.Wf) : e'.store.Wf :=
  h.invariant (fun _ _ _ _ hA hI hs => Engine.Spares.wf hA hs hI) hwf

end Reach

namespace Attempts

theorem claimed_stays_owned {x : Ident} {e₁ e₂ : Engine} {ops : List Op} {c₁ : Charge}
    (hc₁ : e₁.store.charge? x = some c₁) (hst : c₁.status.isSome) (hnn : 0 ≤ c₁.retries)
    (hwf : e₁.store.Wf) (h : Reach (Engine.Spares x) e₁ ops e₂) :
    ∃ c₂, e₂.store.charge? x = some c₂ ∧ c₂.retries ≤ c₁.retries ∧
      (c₂.retries = c₁.retries →
        (∀ ids l e₃, (chargeable ids).exec e₂ = .ok (.ok l, e₃) → ∀ d ∈ l, d.id ≠ x) ∧
        ∀ r e₃, (claim x).exec e₂ = .ok (r, e₃) → ∀ w, r ≠ .ok (some w)) := by
  obtain ⟨c₂, hc₂, hev⟩ := h.evolvesAt c₁ hc₁
  have hwf₂ := h.wf hwf
  -- the attempt read at the end is free again only once a retry is spent
  have hfree : c₂.state = .active → c₂.status = none → c₂.retries < c₁.retries :=
    hev.spent_of_free hst hnn
  refine ⟨c₂, hc₂, hev.retries, fun hsame => ⟨?_, ?_⟩⟩
  · intro ids l e₃ hq d hd hdx
    obtain ⟨-, due, -, hl⟩ := chargeable_cases hq
    cases hl
    obtain ⟨hcd, hs, hstd, -⟩ := (Store.mem_findChargeable e₂.store hwf₂).mp hd
    rw [hdx, hc₂] at hcd
    cases hcd
    have := hfree hs hstd
    omega
  · intro r e₃ hcl w hw
    subst hw
    rcases claim_cases hcl with ⟨-, hne⟩ | ⟨c₀, v, s', hc₀, hs, hst₀, -, -, -⟩
    · exact hne w rfl
    · rw [hc₂] at hc₀
      cases hc₀
      have := hfree hs hst₀
      omega

/-- The queue and the claims. When the end of the lookahead is on the time line, the queue of a
well-formed store is read without a change, lists each attempt once, and lists exactly the stored
attempts that are active, free, with retries not below zero and due by then, among the
identifiers asked for. Each queued attempt whose lock is free is claimed at the same instant and
marked in flight; over every run of operations that spare it, it is then in no queue and no claim
hands it over until it spends a retry. Giving back a claim clears the status of an active attempt
in flight, and of no other. -/
theorem claims_own_queued_attempts (e : Engine) (hwf : e.store.Wf) {due : Instant}
    (hdue : shiftBy e.now e.policy.lookahead = .ok due) (ids : Option (List Ident)) :
    (chargeable ids).exec e = .ok (.ok (e.store.findChargeable e.shuffle due ids), e) ∧
    ((e.store.findChargeable e.shuffle due ids).map (·.id)).Nodup ∧
    (∀ c, c ∈ e.store.findChargeable e.shuffle due ids ↔ e.store.charge? c.id = some c ∧
      c.state = .active ∧ c.status = none ∧ 0 ≤ c.retries ∧ c.chargeAt ≤ due ∧
      ∀ l, ids = some l → c.id ∈ l) ∧
    (∀ c ∈ e.store.findChargeable e.shuffle due ids, chargeKey c.id ∉ e.held →
      ∃ v e₁, (claim c.id).exec e = .ok (.ok (some v), e₁) ∧ v.id = c.id ∧
        v.status = some inFlight ∧
        ∀ ops e₂, Reach (Engine.Spares c.id) e₁ ops e₂ →
          ∃ c₂, e₂.store.charge? c.id = some c₂ ∧ c₂.retries ≤ c.retries ∧
            (c₂.retries = c.retries →
              (∀ ids' l e₃, (chargeable ids').exec e₂ = .ok (.ok l, e₃) → ∀ d ∈ l, d.id ≠ c.id) ∧
              ∀ r e₃, (claim c.id).exec e₂ = .ok (r, e₃) → ∀ w, r ≠ .ok (some w))) ∧
    (∀ x e₁ r e₂ c, (releaseClaim x).exec e₁ = .ok (r, e₂) → e₁.store.charge? x = some c →
      (c.state ≠ .active ∨ c.status ≠ some inFlight) →
      ∃ c', e₂.store.charge? x = some c' ∧ c'.status = c.status) := by
  refine ⟨exec_chargeable_of hdue ids, hwf.nodup_findChargeable e.shuffle due ids,
    fun c => Store.mem_findChargeable e.store hwf, fun c hc hkey => ?_, ?_⟩
  · obtain ⟨v, e₁, hcl, hv, hid, hstatus, hretries, hwf₁⟩ := claim_of_queued hwf hdue hc hkey
    have hnn : 0 ≤ c.retries := ((Store.mem_findChargeable e.store hwf).mp hc).2.2.2.1
    refine ⟨v, e₁, hcl, hid, hstatus, fun ops e₂ h => ?_⟩
    -- the claim marked the attempt with the retries it was queued with
    obtain ⟨c₂, hc₂, hle, hown⟩ :=
      claimed_stays_owned hv (by simp [hstatus]) (hretries ▸ hnn) hwf₁ h
    exact ⟨c₂, hc₂, hretries ▸ hle, fun hsame => hown (hsame.trans hretries.symm)⟩
  · intro x e₁ r e₂ c hr hc hnot
    obtain ⟨c', hc', -, -, -, -, hst⟩ := releaseClaim_read hr hc
    exact ⟨c', hc', hst hnot⟩

/-- An attempt due at the epoch, in a store with its parent and method: it is the whole queue,
and the claim takes it and marks it in flight. -/
theorem claim_owns_the_attempt_due_at_the_epoch :
    let p₀ : Payment :=
      { id := Ident.ofSerial 1, user := ⟨0⟩, gateway := "test", status := .paid,
        amount := ⟨1999, 2, false⟩, paidAt := none, subscription := none, catalogItem := none,
        address := none, isRecurrent := false, parent := none, note := none,
        errorMessage := none, created := Instant.epoch, updated := Instant.epoch }
    let m₀ : Method :=
      { id := Ident.ofSerial 2, user := ⟨0⟩, gateway := "test", token := "tok", expiresOn := none,
        created := Instant.epoch }
    let c₀ : Charge :=
      { id := Ident.ofSerial 3, method := m₀.id, parent := p₀.id, payment := none,
        chargeAt := Instant.epoch, retries := 2, customAmount := none, renewalItem := none,
        state := .active, status := none, note := none, token := "tok", created := Instant.epoch,
        updated := Instant.epoch }
    let e₀ : Engine :=
      { now := Instant.epoch,
        store := { payments := [p₀], methods := [m₀], rows := [⟨c₀, 1⟩], seq := 1, serial := 3 } }
    e₀.store.Wf ∧ shiftBy e₀.now e₀.policy.lookahead = .ok ⟨900, 0⟩ ∧
      (chargeable none).exec e₀ = .ok (.ok [c₀], e₀) ∧
      ∃ v e₁, (claim c₀.id).exec e₀ = .ok (.ok (some v), e₁) ∧ v.status = some inFlight := by
  intro p₀ m₀ c₀ e₀
  have hwf : e₀.store.Wf := by
    refine ⟨by simp [e₀], fun i hi k hk heq => ?_⟩
    simp only [e₀, m₀, p₀, c₀, Store.ids, List.map_cons, List.map_nil, List.nil_append,
      List.cons_append, List.mem_cons, List.not_mem_nil, or_false] at hi hk
    -- the identifiers held were made from the serials 1 to 3, below every later serial
    rcases hi with rfl | rfl | rfl <;> have := Ident.ofSerial_injective heq <;> omega
  have hdue : shiftBy e₀.now e₀.policy.lookahead = .ok ⟨900, 0⟩ := by decide +kernel
  have hq : e₀.store.findChargeable e₀.shuffle ⟨900, 0⟩ none = [c₀] := rfl
  have h := claims_own_queued_attempts e₀ hwf hdue none
  obtain ⟨v, e₁, hcl, -, hst, -⟩ :=
    h.2.2.2.1 c₀ (by rw [hq]; exact List.mem_singleton_self c₀) List.not_mem_nil
  exact ⟨hwf, hdue, hq ▸ h.1, v, e₁, hcl, hst⟩

/-- The same attempt with its lock held elsewhere: it is queued, but its claim times out on the
lock and changes nothing. -/
theorem claim_times_out_on_a_held_lock :
    let p₀ : Payment :=
      { id := Ident.ofSerial 1, user := ⟨0⟩, gateway := "test", status := .paid,
        amount := ⟨1999, 2, false⟩, paidAt := none, subscription := none, catalogItem := none,
        address := none, isRecurrent := false, parent := none, note := none,
        errorMessage := none, created := Instant.epoch, updated := Instant.epoch }
    let m₀ : Method :=
      { id := Ident.ofSerial 2, user := ⟨0⟩, gateway := "test", token := "tok", expiresOn := none,
        created := Instant.epoch }
    let c₀ : Charge :=
      { id := Ident.ofSerial 3, method := m₀.id, parent := p₀.id, payment := none,
        chargeAt := Instant.epoch, retries := 2, customAmount := none, renewalItem := none,
        state := .active, status := none, note := none, token := "tok", created := Instant.epoch,
        updated := Instant.epoch }
    let e₁ : Engine :=
      { now := Instant.epoch, held := [chargeKey c₀.id],
        store := { payments := [p₀], methods := [m₀], rows := [⟨c₀, 1⟩], seq := 1, serial := 3 } }
    (chargeable none).exec e₁ = .ok (.ok [c₀], e₁) ∧
      (claim c₀.id).exec e₁ =
        .ok (.error (.lockTimeout (chargeKey c₀.id) e₁.policy.lockTimeoutMs), e₁) := by
  intro p₀ m₀ c₀ e₁
  have hdue : shiftBy e₁.now e₁.policy.lookahead = .ok ⟨900, 0⟩ := by decide +kernel
  refine ⟨exec_chargeable_of hdue none, ?_⟩
  unfold claim
  rw [exec_withLock, if_pos List.mem_cons_self]

end Attempts

end Rebill
