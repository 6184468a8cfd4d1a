import Rebill.Proofs.Operations

/-!
# Retries bound the gateway charges

An attempt made with `r` retries costs at most `r + 1` gateway charges, and none when `r` is
negative. The argument is a potential. For an attempt `x`, `Engine.potential e x` adds the charges
asked for `x` so far to its budget (`Charge.budget`: one while it is open, free and has retries
not below zero, and one for each retry left). No operation of the service raises it
(`Engine.Spends`):

* the registry lets attempts evolve, and evolving never raises a budget;
* a claim marks a free attempt in flight and takes one from its budget; the call of the gateway
  spends it, and giving the claim back after a failed preparation restores it
  (`Engine.Restores`);
* re-arming a failed attempt clears its status only by spending a retry.

A run needs the attempts it claims to have retries not below zero, which the queue of due
attempts guarantees for a well-formed store. Giving a claim back from outside a run, and writing an
attempt over its row, would break the bound; the operations that keep it are
`Engine.Budgeted`.
-/

namespace Rebill

/-- The gateway charges asked for the attempt `x` in a journal. -/
def callsFor (x : Ident) (l : List GatewayCharge) : Nat := l.countP (·.attempt == x)

@[simp] theorem callsFor_append (x : Ident) (l l' : List GatewayCharge) :
    callsFor x (l ++ l') = callsFor x l + callsFor x l' :=
  List.countP_append ..

@[simp] theorem callsFor_singleton (x q y : Ident) (reply : ChargeReply) :
    callsFor x [⟨q, y, reply⟩] = if y = x then 1 else 0 := by
  by_cases h : y = x <;> simp [callsFor, h]

namespace Charge

variable (c : Charge)

theorem budget_le_succ : c.budget ≤ c.retries.toNat + 1 := by
  unfold budget
  split <;> omega

theorem toNat_le_budget : c.retries.toNat ≤ c.budget := by
  unfold budget
  omega

theorem budget_le_retries : c.budget ≤ (max c.retries (-1) + 1).toNat := by
  unfold budget
  by_cases hr : 0 ≤ c.retries
  · split <;> omega
  · simp only [hr, decide_false, Bool.and_false, Bool.false_eq_true, if_false]
    omega

theorem budget_of_free {c : Charge} (hs : c.state = .active) (hst : c.status = none)
    (hr : 0 ≤ c.retries) : c.budget = c.retries.toNat + 1 := by
  simp only [budget, hs, hst, hr, ChargeState.isClosed, Option.isNone_none, Bool.not_false,
    decide_true, Bool.and_self, if_true]
  omega

theorem budget_of_status {c : Charge} (hst : c.status.isSome) : c.budget = c.retries.toNat := by
  simp [budget, Option.isNone_iff_eq_none, Option.isSome_iff_ne_none.mp hst]

theorem Evolves.withToken {c c' : Charge} (h : c.Evolves c') (s s' : Store) :
    (s.withToken c).Evolves (s'.withToken c') := by
  rw [Store.withToken_eq, Store.withToken_eq]
  exact ⟨h.id, h.method, h.closed, h.retries, h.nonneg, h.budget⟩

end Charge

namespace Engine

/-- What the attempt `x` may still cost: its budget while it is stored, nothing before. -/
def budgetOf (e : Engine) (x : Ident) : Nat := ((e.store.charge? x).map Charge.budget).getD 0

/-- The charges asked for `x` so far, with what it may still cost. -/
def potential (e : Engine) (x : Ident) : Nat := callsFor x e.journal.charges + e.budgetOf x

theorem potential_of_charge? {e : Engine} {x : Ident} {c : Charge}
    (h : e.store.charge? x = some c) : e.potential x = callsFor x e.journal.charges + c.budget := by
  simp [potential, budgetOf, h]

theorem Routine.charge? {e e' : Engine} (h : Routine e e') {x : Ident} {c : Charge}
    (hc : e.store.charge? x = some c) : ∃ c', e'.store.charge? x = some c' ∧ c.Evolves c' := by
  obtain ⟨r, hr, rfl⟩ := (Store.charge?_eq_some _).mp hc
  obtain ⟨r', hr', hev⟩ := h.rows x r hr
  exact ⟨_, (Store.charge?_eq_some _).mpr ⟨r', hr', rfl⟩, hev.withToken _ _⟩

/-- What every operation of the service but giving a claim back from outside a run does: attempts
stay stored and their retries, when not below zero, stay so; a well-formed store stays well
formed; the potential of a stored attempt does not grow; and an attempt not stored at the end was
not charged. -/
structure Spends (e e' : Engine) : Prop where
  rows : ∀ x c, e.store.charge? x = some c →
    ∃ c', e'.store.charge? x = some c' ∧ (0 ≤ c.retries → 0 ≤ c'.retries)
  wf : e.store.Wf → e'.store.Wf
  potential : ∀ x c, e.store.charge? x = some c → e'.potential x ≤ e.potential x
  unborn : ∀ x, e'.store.charge? x = none →
    callsFor x e'.journal.charges = callsFor x e.journal.charges

/-- What giving back the claim on `x`, or charging `x` at its gateway, does: as `Spends`, but the
potential of `x` may grow by the one charge its claim took. -/
structure Restores (x : Ident) (e e' : Engine) : Prop where
  rows : ∀ y c, e.store.charge? y = some c →
    ∃ c', e'.store.charge? y = some c' ∧ (0 ≤ c.retries → 0 ≤ c'.retries)
  wf : e.store.Wf → e'.store.Wf
  potential : ∀ y c, e.store.charge? y = some c →
    e'.potential y ≤ e.potential y + if x = y then 1 else 0
  unborn : ∀ y, e'.store.charge? y = none →
    callsFor y e'.journal.charges = callsFor y e.journal.charges

namespace Spends

variable {e e₁ e₂ e' : Engine}

@[refl] theorem refl (e : Engine) : Spends e e :=
  ⟨fun _ c hc => ⟨c, hc, fun h => h⟩, fun h => h, fun _ _ _ => Nat.le_refl _, fun _ _ => rfl⟩

theorem absent (h : Spends e e') {x : Ident} (hx : e'.store.charge? x = none) :
    e.store.charge? x = none := by
  cases hc : e.store.charge? x with
  | none => rfl
  | some c =>
    obtain ⟨c', hc', -⟩ := h.rows x c hc
    rw [hc'] at hx
    cases hx

theorem trans (h₁ : Spends e₁ e₂) (h₂ : Spends e₂ e') : Spends e₁ e' where
  rows x c hc := by
    obtain ⟨c₂, hc₂, hn₂⟩ := h₁.rows x c hc
    obtain ⟨c', hc', hn'⟩ := h₂.rows x c₂ hc₂
    exact ⟨c', hc', hn' ∘ hn₂⟩
  wf := h₂.wf ∘ h₁.wf
  potential x c hc := by
    obtain ⟨c₂, hc₂, -⟩ := h₁.rows x c hc
    exact Nat.le_trans (h₂.potential x c₂ hc₂) (h₁.potential x c hc)
  unborn x hx := (h₂.unborn x hx).trans (h₁.unborn x (h₂.absent hx))

instance : Std.Refl Spends := ⟨refl⟩
instance : IsTrans Engine Spends := ⟨fun _ _ _ => trans⟩

theorem of_routine (h : Routine e e') : Spends e e' where
  rows x c hc := by
    obtain ⟨c', hc', hev⟩ := h.charge? hc
    exact ⟨c', hc', hev.nonneg⟩
  wf := h.wf
  potential x c hc := by
    obtain ⟨c', hc', hev⟩ := h.charge? hc
    rw [potential_of_charge? hc, potential_of_charge? hc', h.charges]
    exact Nat.add_le_add_left hev.budget _
  unborn x _ := by rw [h.charges]

theorem of_same (hread : ∀ x, e'.store.charge? x = e.store.charge? x)
    (hcalls : e'.journal.charges = e.journal.charges) (hwf : e.store.Wf → e'.store.Wf) :
    Spends e e' where
  rows x c hc := ⟨c, (hread x).trans hc, fun h => h⟩
  wf := hwf
  potential x _ _ := by
    rw [Engine.potential, Engine.potential, budgetOf, budgetOf, hread x, hcalls]
  unborn x _ := by rw [hcalls]

theorem restore {x : Ident} (h : Spends e e₁) (hx : e₁.potential x + 1 ≤ e.potential x)
    (h' : Restores x e₁ e') : Spends e e' where
  rows y c hc := by
    obtain ⟨c₁, hc₁, hn₁⟩ := h.rows y c hc
    obtain ⟨c', hc', hn'⟩ := h'.rows y c₁ hc₁
    exact ⟨c', hc', hn' ∘ hn₁⟩
  wf := h'.wf ∘ h.wf
  potential y c hc := by
    obtain ⟨c₁, hc₁, -⟩ := h.rows y c hc
    have h₁ := h.potential y c hc
    have h₂ := h'.potential y c₁ hc₁
    by_cases hy : x = y
    · subst hy
      rw [if_pos rfl] at h₂
      omega
    · rw [if_neg hy] at h₂
      omega
  unborn y hy := by
    have habs : e₁.store.charge? y = none := by
      cases hc : e₁.store.charge? y with
      | none => rfl
      | some c =>
        obtain ⟨c', hc', -⟩ := h'.rows y c hc
        rw [hc'] at hy
        cases hy
    exact (h'.unborn y hy).trans (h.unborn y habs)

end Spends

theorem Restores.of_spends {x : Ident} {e e' : Engine} (h : Spends e e') : Restores x e e' :=
  ⟨h.rows, h.wf, fun y c hc => Nat.le_trans (h.potential y c hc) (Nat.le_add_right _ _), h.unborn⟩

theorem restores_afterCharge {e : Engine} {c : Charge} (hc : e.store.charge? c.id ≠ none)
    (g : Gateway) (p : Payment) : Restores c.id e (e.afterCharge g p c) where
  rows y c' hc' := ⟨c', hc', fun h => h⟩
  wf h := h
  potential y c' hc' := by
    simp only [potential, budgetOf, afterCharge_store, afterCharge_charges, callsFor_append,
      callsFor_singleton]
    omega
  unborn y hy := by
    have hne : c.id ≠ y := fun heq => hc (heq ▸ hy)
    simp [hne]

end Engine

open Engine Svc Attempts

theorem restores_releaseClaim {id : Ident} {e e' : Engine} {r : Except BillingError Charge}
    (h : (releaseClaim id).exec e = .ok (r, e')) : Restores id e e' := by
  rcases releaseClaim_cases h with rfl | ⟨c, v, s', hc, hs, -, rfl⟩
  · exact .of_spends (.refl _)
  -- the attempt saved keeps the identifier and the retries of the one read
  obtain ⟨hfid, -, hret⟩ := giveBack_fields c (c.state == .active && c.status == some inFlight)
  generalize (if c.state == .active && c.status == some inFlight then
    { c with status := none } else c) = c' at hs hfid hret
  have hid : c'.id = id := hfid.trans (Store.id_of_charge? e.store hc)
  obtain ⟨-, -, -, -, -, hvret, -⟩ := Store.saveCharge_read e.store hs
  have hread := Store.charge?_saveCharge e.store hs
  refine ⟨fun y c₀ hc₀ => ?_, fun hwf => by simpa using hwf.saveCharge hs, fun y c₀ hc₀ => ?_,
    fun y _ => by simp⟩
  · by_cases hy : id = y
    · subst hy
      rw [hc] at hc₀
      cases hc₀
      refine ⟨v, by simp [hread, hid], fun hn => ?_⟩
      omega
    · exact ⟨c₀, by simp [hread, hid, hy, hc₀], fun hn => hn⟩
  · by_cases hy : id = y
    · subst hy
      rw [hc] at hc₀
      cases hc₀
      have hv : (e.afterUpdate id c.state v s').store.charge? id = some v := by simp [hread, hid]
      rw [potential_of_charge? hv, potential_of_charge? hc, afterUpdate_charges, if_pos rfl]
      have h₁ := v.budget_le_succ
      have h₂ := c.toNat_le_budget
      omega
    · have hv : (e.afterUpdate id c.state v s').store.charge? y = some c₀ := by
        simp [hread, hid, hy, hc₀]
      rw [potential_of_charge? hv, potential_of_charge? hc₀, afterUpdate_charges, if_neg hy]
      omega

namespace Engine.Spends

variable {e e' : Engine}

theorem tally (e : Engine) (k : Counter) : Spends e (e.tally k) := of_routine (Routine.tally e k)

theorem appendAudit (e : Engine) (a : AuditEntry) :
    Spends e { e with store := e.store.appendAudit a } :=
  of_same (fun _ => rfl) rfl fun h => h.appendAudit a

theorem createPayment {d : PaymentDraft} {p : Payment} {s : Store}
    (h : e.store.createPayment d e.now = (p, s)) : Spends e { e with store := s } := by
  have hs : s = (e.store.createPayment d e.now).2 := by rw [h]
  subst hs
  refine of_same (fun x => ?_) rfl fun hwf => hwf.createPayment d e.now
  rw [Store.createPayment_eq]
  rfl

theorem keepsAt_update (id : Ident) (change : Charge → Svc Charge) (e : Engine)
    (hch : Change change) : KeepsAt Spends (update id change) e :=
  (update_routine hch id e).mono fun _ _ => of_routine

theorem keepsAt_updateStatus (id : Ident) (u : Ledger.StatusRequest) (e : Engine) :
    KeepsAt Spends (Ledger.updateStatus id u) e := by
  intro r e' h
  rcases Ledger.updateStatus_cases h with ⟨rfl, -, -⟩ | ⟨k, rfl, -⟩ |
    ⟨p, p', s', -, -, -, hs, -, rfl⟩
  · exact refl _
  · exact tally _ k
  · obtain ⟨q, -, heq⟩ := (Store.savePaymentStatus_eq_ok e.store).mp hs
    cases heq
    exact of_same (fun _ => by simp; rfl) (by simp) fun hwf => by simpa using hwf.savePaymentStatus hs

theorem claim {id : Ident} {c : Charge} {e₁ : Engine}
    (hcl : (Attempts.claim id).exec e = .ok (.ok (some c), e₁))
    (hnn : ∀ c₀, e.store.charge? id = some c₀ → 0 ≤ c₀.retries) :
    Spends e e₁ ∧ e₁.potential id + 1 ≤ e.potential id ∧ c.id = id ∧
      e₁.store.charge? id = some c := by
  have hsp : Spends e e₁ := of_routine (claim_routine id e _ _ hcl)
  rcases claim_cases hcl with ⟨-, hne⟩ | ⟨c₀, v, s', hc₀, hactive, hnone, hs, hr, rfl⟩
  · exact absurd rfl (hne c)
  cases hr
  obtain ⟨hread, hid, -, hstatus, -, hretries, -⟩ := Store.saveCharge_read e.store hs
  have hid₀ : c₀.id = id := Store.id_of_charge? e.store hc₀
  have hc : s'.charge? id = some c := by rw [← hid₀]; exact hread
  -- the claim marks the attempt in flight: its budget falls from its retries plus one to them
  have hbefore : c₀.budget = c₀.retries.toNat + 1 := Charge.budget_of_free hactive hnone (hnn c₀ hc₀)
  have hafter : c.budget = c₀.retries.toNat := by
    rw [Charge.budget_of_status (by simp [hstatus]), hretries]
  refine ⟨hsp, ?_, hid.trans hid₀, hc⟩
  rw [potential_of_charge? (e := { e with store := s' }) hc, potential_of_charge? hc₀]
  simp only [hbefore, hafter]
  omega

end Engine.Spends

namespace Run

open Engine

theorem keepsAt_process_spends (due : Charge) (e : Engine)
    (hnn : ∀ c, e.store.charge? due.id = some c → 0 ≤ c.retries) :
    KeepsAt Spends (process due) e := by
  intro r e' h
  rcases process_cases h with ⟨rfl, -⟩ | ⟨rfl, -⟩ | ⟨c, e₁, hcl, hphase⟩
  · exact Spends.refl _
  · exact Spends.tally _ _
  obtain ⟨h₁, hdrop, hid, hc₁⟩ := Spends.claim hcl hnn
  have hprep := keepsAt_prepare (.of_update Spends.keepsAt_update) Spends.appendAudit
    (fun _ _ _ _ => Spends.createPayment) c e₁
  -- what the preparation keeps, and the claim's drop carried through it
  have hafter : ∀ {e₂ : Engine}, Spends e₁ e₂ →
      Spends e e₂ ∧ e₂.potential c.id + 1 ≤ e.potential c.id ∧ e₂.store.charge? c.id ≠ none := by
    intro e₂ h₂
    obtain ⟨c₂, hc₂, -⟩ := h₂.rows due.id c hc₁
    have hle := h₂.potential due.id c hc₁
    refine ⟨h₁.trans h₂, ?_, ?_⟩
    · rw [hid]
      omega
    · rw [hid, hc₂]
      exact Option.some_ne_none _
  rcases hphase with ⟨err, e₂, x, hp, hr, -⟩ | ⟨o, e₂, hp, rfl, -⟩ |
    ⟨p, g, e₂, hp, x, e₃, ha, hend⟩
  · obtain ⟨h₂, hx, -⟩ := hafter (hprep _ _ hp)
    exact h₂.restore hx (restores_releaseClaim hr)
  · exact (h₁.trans (hprep _ _ hp)).trans (Spends.tally e₂ _)
  · obtain ⟨h₂, hx, hstored⟩ := hafter (hprep _ _ hp)
    have hcall : Spends e (e₂.afterCharge g p c) := h₂.restore hx (restores_afterCharge hstored g p)
    have h₃ : Spends e e₃ := hcall.trans (keepsAt_applyReply (.of_update Spends.keepsAt_update)
      Spends.keepsAt_updateStatus Spends.tally c p g _ _ _ _ ha)
    rcases hend with ⟨err, -, rfl, -⟩ | ⟨o, resp, -, -, rfl⟩
    · exact h₃
    · exact h₃.trans ((Spends.appendAudit e₃ _).trans (Spends.tally _ _))

theorem keepsAt_processAll_spends (l : List Charge) (s : Summary) (e : Engine)
    (hl : ∀ c ∈ l, ∃ c', e.store.charge? c.id = some c' ∧ 0 ≤ c'.retries) :
    KeepsAt Spends (processAll l s) e := by
  intro r e' h
  obtain ⟨-, hsp, -⟩ := processAll_invariant
    (I := fun l e₁ => Spends e e₁ ∧ ∀ c ∈ l, ∃ c', e₁.store.charge? c.id = some c' ∧ 0 ≤ c'.retries)
    (fun c rest e₀ x e₁ ⟨h₀, hl₀⟩ hx => by
      obtain ⟨c', hc', hnn⟩ := hl₀ c List.mem_cons_self
      have hstep := keepsAt_process_spends c e₀
        (fun c₀ hc₀ => Option.some.inj (hc'.symm.trans hc₀) ▸ hnn) _ _ hx
      refine ⟨h₀.trans hstep, fun d hd => ?_⟩
      obtain ⟨d', hd', hdn⟩ := hl₀ d (List.mem_cons_of_mem _ hd)
      obtain ⟨d'', hd'', hdn'⟩ := hstep.rows _ _ hd'
      exact ⟨d'', hd'', hdn' hdn⟩)
    (fun _ e₀ k ⟨h₀, hl₀⟩ => ⟨h₀.trans (Spends.tally e₀ k), hl₀⟩) l s ⟨Spends.refl e, hl⟩ h
  exact hsp

theorem keepsAt_run_spends (ids : Option (List Ident)) (e : Engine) (hwf : e.store.Wf) :
    KeepsAt Spends (run ids) e := by
  intro r e' h
  unfold run at h
  rcases exec_bind_eq_ok h with ⟨err, hch, rfl⟩ | ⟨l, e₁, hch, hrest⟩
  · obtain ⟨rfl, -⟩ := chargeable_cases hch
    exact Spends.refl _
  obtain ⟨rfl, due, -, hl⟩ := chargeable_cases hch
  cases hl
  refine keepsAt_processAll_spends _ {} e₁ (fun c hc => ?_) _ _ hrest
  obtain ⟨hmem, -, -, hnn, -⟩ := Store.of_mem_findChargeable hc
  exact ⟨c, hwf.charge?_of_mem hmem, hnn⟩

end Run

/-! ### No attempt is charged in the step that makes it

Only the registry makes attempts, and it asks no gateway; a run, which does, makes none. -/

namespace Engine

/-- No attempt is made: what is not stored stays unstored. -/
def MakesNone (e e' : Engine) : Prop := ∀ x, e.store.charge? x = none → e'.store.charge? x = none

namespace MakesNone

instance : Std.Refl MakesNone := ⟨fun _ _ h => h⟩
instance : IsTrans Engine MakesNone := ⟨fun _ _ _ h₁ h₂ x hx => h₂ x (h₁ x hx)⟩

theorem of_read {e e' : Engine} (h : ∀ x, e'.store.charge? x = e.store.charge? x) :
    MakesNone e e' :=
  fun x hx => (h x).trans hx

theorem saveCharge {e : Engine} {c v : Charge} {t : Instant} {s' : Store}
    (hs : e.store.saveCharge c t = .ok (v, s')) (e' : Engine) (he' : e'.store = s') :
    MakesNone e e' := by
  intro x hx
  rw [he', Store.charge?_saveCharge e.store hs, if_neg]
  · exact hx
  · rintro rfl
    obtain ⟨row, hrow, -⟩ := (Store.saveCharge_eq_ok e.store).mp hs
    simp [Store.charge?, hrow] at hx

theorem keepsAt_update (id : Ident) (change : Charge → Svc Charge) (e : Engine)
    (hch : Attempts.Change change) : KeepsAt MakesNone (Attempts.update id change) e := by
  intro r e' h
  rcases Attempts.update_cases hch h with rfl | ⟨c, c', v, s', -, -, hs, -, rfl⟩
  · exact refl_of MakesNone _
  · exact saveCharge hs _ (afterUpdate_store ..)

theorem keepsAt_updateStatus (id : Ident) (u : Ledger.StatusRequest) (e : Engine) :
    KeepsAt MakesNone (Ledger.updateStatus id u) e := by
  intro r e' h
  rcases Ledger.updateStatus_cases h with ⟨rfl, -, -⟩ | ⟨k, rfl, -⟩ |
    ⟨p, p', s', -, -, -, hs, -, rfl⟩
  · exact refl_of MakesNone _
  · exact of_read fun _ => rfl
  · obtain ⟨q, -, heq⟩ := (Store.savePaymentStatus_eq_ok e.store).mp hs
    cases heq
    exact of_read fun _ => by simp; rfl

theorem keepsAt_run (ids : Option (List Ident)) (e : Engine) : KeepsAt MakesNone (Run.run ids) e := by
  have htally : ∀ e k, MakesNone e (e.tally k) := fun _ _ => of_read fun _ => rfl
  have hlog : ∀ e (a : AuditEntry), MakesNone e { e with store := e.store.appendAudit a } :=
    fun _ _ => of_read fun _ => rfl
  have hcreate : ∀ e d p s, e.store.createPayment d e.now = (p, s) →
      MakesNone e { e with store := s } := by
    intro e d p s h
    have hs : s = (e.store.createPayment d e.now).2 := by rw [h]
    subst hs
    refine of_read fun x => ?_
    rw [Store.createPayment_eq]
    rfl
  refine Run.keepsAt_run (fun c e => Run.keepsAt_process (fun e r e' h => ?_)
    (Run.keepsAt_prepare (.of_update keepsAt_update) hlog hcreate) (fun c e r e' h => ?_)
    (fun e g p c => of_read fun _ => rfl)
    (Run.keepsAt_applyReply (.of_update keepsAt_update) keepsAt_updateStatus htally) hlog htally e) htally ids e
  · rcases Attempts.claim_cases h with ⟨rfl, -⟩ | ⟨c, v, s', -, -, -, hs, -, rfl⟩
    · exact refl_of MakesNone _
    · exact saveCharge hs _ rfl
  · rcases Attempts.releaseClaim_cases h with rfl | ⟨c, v, s', -, hs, -, rfl⟩
    · exact refl_of MakesNone _
    · exact saveCharge hs _ (afterUpdate_store ..)

theorem keepsAt_resolvePending (id : Ident) (succeeded : Bool) (r : GatewayResponse) (e : Engine) :
    KeepsAt MakesNone (Run.resolvePending id succeeded r) e :=
  Run.keepsAt_resolvePending (.of_update keepsAt_update) (fun _ _ => of_read fun _ => rfl) keepsAt_updateStatus
    (fun _ _ => of_read fun _ => rfl) id succeeded r e

end MakesNone

end Engine

/-- The operations under which retries bound the charges: all but writing an attempt over its row
and giving a claim back from outside a run; a payment is seeded only under an identifier the store
has issued. -/
def Engine.Budgeted (e : Engine) : Op → Prop
  | .putCharge _ | .releaseClaim _ => False
  | .seedPayment p => e.store.Issued p.id
  | _ => True

namespace Engine.Spends

theorem step {e e' : Engine} {op : Op} (hA : e.Budgeted op) (h : op.Step e e')
    (hwf : e.store.Wf) : Spends e e' := by
  obtain ⟨r, hx⟩ := h
  cases op with
  | issueIdent =>
    cases hx
    exact of_same (fun _ => rfl) rfl fun h =>
      h.of_ids h.rows_nodup (Nat.le_succ _) fun i hi => .inl hi
  | setClock t =>
    cases hx
    exact of_same (fun _ => rfl) rfl fun h => h
  | setGateway g =>
    cases hx
    exact of_same (fun _ => rfl) rfl fun h => h
  | seedPayment p =>
    cases hx
    exact of_same (fun _ => rfl) rfl fun h => h.insertPayment hA
  | createPayment d =>
    cases hx
    exact createPayment (p := (e.store.createPayment d e.now).1) rfl
  | putCharge c => exact hA.elim
  | registry op => exact of_routine (RegistryOp.keepsAt_act op e r e' hx)
  | releaseClaim id => exact hA.elim
  | updateStatus id u => exact keepsAt_drop (keepsAt_updateStatus id u e) r e' hx
  | run ids => exact keepsAt_drop (Run.keepsAt_run_spends ids e hwf) r e' hx
  | resolvePending id succeeded resp =>
    exact keepsAt_drop (Run.keepsAt_resolvePending (.of_update keepsAt_update) appendAudit
      keepsAt_updateStatus tally id succeeded resp e) r e' hx
  | refreshExpiry g =>
    exact keepsAt_drop ((Expiry.refresh_routine g e).mono fun _ _ => of_routine) r e' hx

theorem routine_or_makesNone {e e' : Engine} {op : Op} (hA : e.Budgeted op) (h : op.Step e e') :
    Routine e e' ∨ MakesNone e e' := by
  obtain ⟨r, hx⟩ := h
  cases op with
  | issueIdent | setClock _ | setGateway _ | seedPayment _ =>
    cases hx
    exact .inr fun _ hx₀ => hx₀
  | createPayment d =>
    cases hx
    refine .inr fun x hx₀ => ?_
    rw [Store.createPayment_eq]
    exact hx₀
  | putCharge c => exact hA.elim
  | registry op => exact .inl (RegistryOp.keepsAt_act op e r e' hx)
  | releaseClaim id => exact hA.elim
  | updateStatus id u => exact .inr (keepsAt_drop (MakesNone.keepsAt_updateStatus id u e) r e' hx)
  | run ids => exact .inr (keepsAt_drop (MakesNone.keepsAt_run ids e) r e' hx)
  | resolvePending id succeeded resp =>
    exact .inr (keepsAt_drop (MakesNone.keepsAt_resolvePending id succeeded resp e) r e' hx)
  | refreshExpiry g => exact .inl (keepsAt_drop (Expiry.refresh_routine g e) r e' hx)

theorem calls_of_unstored {e e' : Engine} {op : Op} (hA : e.Budgeted op) (h : op.Step e e')
    (hwf : e.store.Wf) {x : Ident} (hx : e.store.charge? x = none) :
    callsFor x e'.journal.charges = callsFor x e.journal.charges := by
  rcases routine_or_makesNone hA h with hr | hn
  · rw [hr.charges]
  · exact (step hA h hwf).unborn x (hn x hx)

theorem reach {e e' : Engine} {ops : List Op} (h : Reach Budgeted e ops e') (hwf : e.store.Wf) :
    Spends e e' := by
  induction h with
  | nil e => exact refl e
  | cons hA hs _ ih =>
    have h₁ := step hA hs hwf
    exact h₁.trans (ih (h₁.wf hwf))

end Engine.Spends

open Engine in
/-- An attempt costs at most one gateway charge more than the retries it was made with, and none
when they are negative, over every budgeted run of operations from a well-formed store: none
before the step that makes it, none in that step, and from then on no more than its budget. -/
theorem gateway_charges_within_retries {e e₁ e₂ e' : Engine} {ops₁ ops₂ : List Op} {op : Op}
    {x : Ident} {c : Charge} (hwf : e.store.Wf) (h₁ : Reach Budgeted e ops₁ e₁)
    (hnew : e₁.store.charge? x = none) (hA : e₁.Budgeted op) (hstep : op.Step e₁ e₂)
    (hc : e₂.store.charge? x = some c) (h₂ : Reach Budgeted e₂ ops₂ e') :
    callsFor x e'.journal.charges ≤
      callsFor x e.journal.charges + (max c.retries (-1) + 1).toNat := by
  have hs₁ := Spends.reach h₁ hwf
  have hwf₁ := hs₁.wf hwf
  have hs₂ := Spends.reach h₂ ((Spends.step hA hstep hwf₁).wf hwf₁)
  -- no charge for `x` before the step that makes it, nor in that step
  have hbefore := hs₁.unborn x hnew
  have hmade := Spends.calls_of_unstored hA hstep hwf₁ hnew
  -- from then on its potential bounds its charges
  have hpot := hs₂.potential x c hc
  obtain ⟨c', hc', -⟩ := hs₂.rows x c hc
  rw [potential_of_charge? hc', potential_of_charge? hc] at hpot
  have hb := c.budget_le_retries
  omega

open Engine in
/-- An attempt made with one retry, charged through a gateway that declines every charge as worth
retrying: a run calls the gateway and re-arms it a day later, a run then calls it again and notes
the retries spent. The two calls are all its budget allows. -/
theorem gateway_charges_within_retries_over_two_declines :
    let p₀ : Payment :=
      { id := Ident.ofSerial 1, user := ⟨0⟩, gateway := "test", status := .paid,
        amount := ⟨1999, 2, false⟩, paidAt := none, subscription := none, catalogItem := none,
        address := none, isRecurrent := false, parent := none, note := none,
        errorMessage := none, created := Instant.epoch, updated := Instant.epoch }
    let m₀ : Method :=
      { id := Ident.ofSerial 2, user := ⟨0⟩, gateway := "test", token := "tok", expiresOn := none,
        created := Instant.epoch }
    let g₀ : Gateway :=
      { id := "test", answering := .answers fun _ _ =>
          .failed ⟨.retryable, { code := "DECLINED", message := "Card declined", successful := false,
                                 data := .object [] }⟩ }
    let e₀ : Engine :=
      { now := Instant.epoch, gateways := ⟨[g₀]⟩,
        store := { payments := [p₀], methods := [m₀], serial := 2 } }
    let op : Op := .registry (.createAttempt m₀.id p₀.id Instant.epoch none (some 1))
    let e₁ : Engine := match op.act.exec e₀ with
      | .ok (_, e) => e
      | .error _ => e₀
    let c : Charge := Charge.ofDraft (Ident.ofSerial 3)
      { method := m₀.id, parent := p₀.id, chargeAt := Instant.epoch, retries := 1,
        customAmount := none, renewalItem := none, note := none } "tok" Instant.epoch
    let ops : List Op := [.run none, .setClock ⟨86400, 0⟩, .run none]
    ∃ e', e₀.store.Wf ∧ e₀.store.charge? c.id = none ∧ e₀.Budgeted op ∧ op.Step e₀ e₁ ∧
      e₁.store.charge? c.id = some c ∧ Reach Budgeted e₁ ops e' ∧
      callsFor c.id e'.journal.charges = 2 ∧
      callsFor c.id e'.journal.charges ≤
        callsFor c.id e₀.journal.charges + (max c.retries (-1) + 1).toNat := by
  intro p₀ m₀ g₀ e₀ op e₁ c ops
  have hwf : e₀.store.Wf := by
    refine ⟨List.nodup_nil, fun i hi k hk heq => ?_⟩
    simp only [e₀, m₀, p₀, Store.ids, List.map_cons, List.map_nil, List.nil_append,
      List.cons_append, List.mem_cons, List.not_mem_nil, or_false] at hi hk
    -- the two identifiers held were made from the serials 1 and 2, below every later serial
    rcases hi with rfl | rfl
    · have := Ident.ofSerial_injective heq
      omega
    · have := Ident.ofSerial_injective heq
      omega
  have hnew : e₀.store.charge? c.id = none := by
    simp only [e₀, c]
    rfl
  have hstep : op.Step e₀ e₁ := ⟨_, rfl⟩
  have hc : e₁.store.charge? c.id = some c := by
    simp only [e₁, c, op, e₀, m₀, p₀, g₀]
    rfl
  have hA : e₀.Budgeted op := trivial
  -- the kernel runs the three operations once; the rest is read off the engine they leave
  have hcalls : (Op.runAll e₁ ops).map (fun e' => callsFor c.id e'.journal.charges) = some 2 := by
    decide +kernel
  cases hrun : Op.runAll e₁ ops with
  | none =>
    rw [hrun] at hcalls
    cases hcalls
  | some e' =>
    rw [hrun] at hcalls
    have hreach : Reach Budgeted e₁ ops e' := Reach.of_runAll (fun _ op hop => by
      simp only [ops, List.mem_cons, List.not_mem_nil, or_false] at hop
      rcases hop with rfl | rfl | rfl <;> trivial) hrun
    exact ⟨e', hwf, hnew, hA, hstep, hc, hreach, Option.some.inj hcalls,
      gateway_charges_within_retries hwf (.nil e₀) hnew hA hstep hc hreach⟩

end Rebill
